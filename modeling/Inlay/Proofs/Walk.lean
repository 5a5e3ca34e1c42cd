/-
**What one segment does to a walk.**

`Inlay/Map/Coalesced.lean` walks the segments of a line with at most one pending mapping.  A segment
either changes nothing but the column, or it is a long advance that closes the range of the pending
mapping, or it counts and has a target that competes with the pending one; and it is reported if it is
malformed or points outside the host.  This module says so once, as relations, so that what is kept along a
line needs one case for each of these and no look at the walk itself.

Main definitions:

* `Inlay.Walk.target?` — the host side that a segment asks for;
* `Inlay.Walk.Counts`, `Inlay.Walk.Closes` — which segments count, and which close a range;
* `Inlay.Walk.Takes` — **what a segment settles, and what is pending then**;
* `Inlay.Walk.Says` — what is reported of a segment.

Main results:

* `Inlay.Walk.line_step` — the walk does what the relations say, segment by segment;
* `Inlay.Walk.line_cons` — the mappings of a line, segment by segment;
* `Inlay.Walk.forall_mem_coalesce` — what candidates have and range ends keep, all mappings have;
* `Inlay.Walk.filter_coalesce` — the mappings of a generated line come from the segments of that line.
-/
import Inlay.Proofs.Host
import Inlay.Proofs.Merge
import Inlay.Map.Coalesced

set_option autoImplicit false

namespace Inlay.Walk

/-! ### Kinds of segments -/

/-- The host side that a segment asks for; only a mapped segment asks for one, and there is none
outside the host. -/
def target? (walk : Walk) : Segment → Option Target
  | .mapped _ _ snippetLine snippetColumn nameIndex =>
    (walk.placement.toHost walk.host snippetLine snippetColumn walk.adjustSeparators).map fun place =>
      { line := place.line, column := place.column, name := nameIndex.bind walk.map.name }
  | _ => none

/-- Whether a segment counts at the column that it reaches: it is mapped, the column is not inside a
protected range, its name is not synthetic, and its snippet line falls inside the host. -/
def Counts (walk : Walk) (line column : Nat) : Segment → Prop
  | .mapped _ _ snippetLine _ nameIndex =>
    walk.analysis.protection.containsStrictly line column = false ∧
      (∀ name, nameIndex.bind walk.map.name = some name → walk.analysis.isSynthetic name = false) ∧
      walk.placement.hostLine snippetLine < walk.host.lineCount
  | _ => False

/-- Whether a segment is an advance by `delta` that closes the range of a pending mapping: it is a long
one, and its column is not inside a protected range. -/
def Closes (walk : Walk) (line column delta : Nat) (segment : Segment) : Prop :=
  segment = .advance delta ∧ 1 < delta ∧
    walk.analysis.protection.containsStrictly line column = false

/-- A segment that counts closes nothing. -/
theorem Counts.not_closes {walk : Walk} {line column delta : Nat} {segment : Segment}
    (h : walk.Counts line column segment) : ¬ walk.Closes line column delta segment := by
  rintro ⟨rfl, _, _⟩
  exact h

/-! ### One segment -/

/-- What a segment that reaches `column` does, given the pending mapping: the mappings that it settles,
and the one that is pending then. -/
inductive Takes (walk : Walk) (number column : Nat) :
    Option Mapping → Segment → List Mapping → Option Mapping → Prop
  | pass {pending : Option Mapping} {segment : Segment}
      (hcount : ¬ walk.Counts number column segment)
      (hclose : ∀ delta, walk.Closes number column delta segment → pending = none) :
      Takes walk number column pending segment [] pending
  | close {current : Mapping} {segment : Segment} {delta : Nat}
      (hclose : walk.Closes number column delta segment) :
      Takes walk number column (some current) segment
        [current, walk.rangeEnd current column delta] none
  | hold {pending : Option Mapping} {segment : Segment} {target : Target}
      (hcount : walk.Counts number column segment) (htarget : walk.target? segment = some target)
      (hcolumn : ∀ current, pending = some current → current.column ≠ column) :
      Takes walk number column pending segment pending.toList
        (some { line := number, column, target, origin := .coalesced })
  | yield {current : Mapping} {segment : Segment} {target : Target}
      (hcount : walk.Counts number column segment) (htarget : walk.target? segment = some target)
      (hcolumn : current.column = column)
      (hbetter : current.target.prefers walk.host target = true) :
      Takes walk number column (some current) segment [] (some { current with target })
  | stay {current : Mapping} {segment : Segment} {target : Target}
      (hcount : walk.Counts number column segment) (htarget : walk.target? segment = some target)
      (hcolumn : current.column = column)
      (hbetter : current.target.prefers walk.host target = false) :
      Takes walk number column (some current) segment [] (some current)

/-- A candidate that competes with what is pending. -/
theorem takes_hold {walk : Walk} {number column : Nat} {segment : Segment} {target : Target}
    (pending : Option Mapping) (hcount : walk.Counts number column segment)
    (htarget : walk.target? segment = some target) :
    let held := walk.hold pending { line := number, column, target, origin := .coalesced }
    walk.Takes number column pending segment held.1.toList (some held.2) := by
  cases pending with
  | none => exact Takes.hold hcount htarget (by simp)
  | some current =>
      by_cases hcolumn : current.column = column
      · cases hbetter : current.target.prefers walk.host target with
        | false => simpa [hold, hcolumn, hbetter] using Takes.stay hcount htarget hcolumn hbetter
        | true => simpa [hold, hcolumn, hbetter] using Takes.yield hcount htarget hcolumn hbetter
      · have hother : ∀ other, some current = some other → other.column ≠ column := by
          rintro other ⟨⟩
          exact hcolumn
        simpa [hold, hcolumn] using Takes.hold hcount htarget hother

/-- What is reported of a segment at the column that it reaches: that it is malformed, whether or not the
column is protected; or that its host line is not there, if the column is not inside a protected range and its
name is not synthetic. -/
inductive Says (walk : Walk) (line column : Nat) : Segment → Diagnostic → Prop
  | malformed {delta : Option Nat} {fault : SegmentFault} :
      Says walk line column (.malformed delta fault)
        { code := .malformedSegment
          kind := .warning
          detail := fault.message
          generated := some ⟨line, column⟩ }
  | outside {delta source snippetLine snippetColumn : Nat} {nameIndex : Option Nat}
      (hprotected : walk.analysis.protection.containsStrictly line column = false)
      (hname : ∀ name, nameIndex.bind walk.map.name = some name →
        walk.analysis.isSynthetic name = false)
      (houtside : walk.host.lineCount ≤ walk.placement.hostLine snippetLine) :
      Says walk line column (.mapped delta source snippetLine snippetColumn nameIndex)
        { code := .outOfBounds
          kind := .warning
          detail := "host has " ++ Json.intText walk.host.lineCount
            ++ " lines, segment points at snippet line " ++ Json.intText snippetLine
          generated := some ⟨line, column⟩
          hostLine := some (walk.placement.hostLine snippetLine) }

theorem says_malformed_iff {walk : Walk} {line column : Nat} {delta : Option Nat} {fault : SegmentFault}
    {report : Diagnostic} :
    walk.Says line column (.malformed delta fault) report ↔ malformed line column fault = report := by
  constructor
  · rintro ⟨⟩
    rfl
  · rintro rfl
    exact Says.malformed

theorem not_says_advance {walk : Walk} {line column delta : Nat} {report : Diagnostic} :
    ¬ walk.Says line column (.advance delta) report :=
  nofun

theorem says_mapped_iff {walk : Walk} {line column delta source snippetLine snippetColumn : Nat}
    {nameIndex : Option Nat} {report : Diagnostic} :
    walk.Says line column (.mapped delta source snippetLine snippetColumn nameIndex) report ↔
      (walk.analysis.protection.containsStrictly line column = false ∧
        (∀ name, nameIndex.bind walk.map.name = some name → walk.analysis.isSynthetic name = false) ∧
        walk.host.lineCount ≤ walk.placement.hostLine snippetLine) ∧
      walk.outside line column snippetLine = report := by
  constructor
  · rintro (_ | ⟨hprotected, hname, houtside⟩)
    exact ⟨⟨hprotected, hname, houtside⟩, rfl⟩
  · rintro ⟨⟨hprotected, hname, houtside⟩, rfl⟩
    exact Says.outside hprotected hname houtside

/-- **A segment within reach does what the relations say**, and the walk goes on behind it. -/
theorem line_step {walk : Walk} {number column next : Nat} {segment : Segment}
    (pending : Option Mapping) (hreached : reached? column segment = some next) :
    ∃ settled after said, walk.Takes number next pending segment settled after ∧
      (∀ report, said = some report ↔ walk.Says number next segment report) ∧
      ∀ rest, walk.line number column pending (segment :: rest) =
        (settled ++ (walk.line number next after rest).1,
          said.toList ++ (walk.line number next after rest).2) := by
  simp only [line, hreached]
  cases segment with
  | malformed delta? fault =>
      refine ⟨[], pending, some (malformed number next fault), Takes.pass (fun h => h) ?_, ?_,
        fun _ => rfl⟩
      · rintro _ ⟨⟨⟩, _⟩
      · intro report
        rw [says_malformed_iff, Option.some_inj]
  | advance delta =>
      have hsilent : ∀ report, none = some report ↔ walk.Says number next (.advance delta) report :=
        fun report => iff_of_false nofun not_says_advance
      cases pending with
      | none => exact ⟨[], none, none, Takes.pass (fun h => h) (fun _ _ => rfl), hsilent, fun _ => rfl⟩
      | some current =>
          by_cases hquiet : (walk.analysis.protection.containsStrictly number next ||
              decide (delta ≤ 1)) = true
          · -- too short, or inside a protected range
            simp only [hquiet, if_true]
            refine ⟨[], some current, none, Takes.pass (fun h => h) ?_, hsilent, fun _ => rfl⟩
            rintro _ ⟨⟨⟩, hlong, hprotected⟩
            simp only [hprotected, Bool.false_or, decide_eq_true_eq] at hquiet
            omega
          · simp only [hquiet]
            simp only [Bool.or_eq_true, decide_eq_true_eq, not_or, Bool.not_eq_true,
              Nat.not_le] at hquiet
            exact ⟨_, none, none, Takes.close ⟨rfl, hquiet.2, hquiet.1⟩, hsilent, fun _ => rfl⟩
  | mapped delta source snippetLine snippetColumn nameIndex =>
      by_cases hquiet : (walk.analysis.protection.containsStrictly number next ||
          (nameIndex.bind walk.map.name).any walk.analysis.isSynthetic) = true
      · -- inside a protected range, or the name is synthetic
        simp only [hquiet, if_true]
        have hruled : ¬ (walk.analysis.protection.containsStrictly number next = false ∧
            ∀ name, nameIndex.bind walk.map.name = some name →
              walk.analysis.isSynthetic name = false) := by
          rintro ⟨hprotected, hname⟩
          simp only [hprotected, Bool.false_or, Option.any_eq_true] at hquiet
          obtain ⟨name, hbind, hsynthetic⟩ := hquiet
          rw [hname name hbind] at hsynthetic
          exact Bool.false_ne_true hsynthetic
        refine ⟨[], pending, none, Takes.pass ?_ (by rintro _ ⟨⟨⟩, _⟩), ?_, fun _ => rfl⟩
        · rintro ⟨hprotected, hname, _⟩
          exact hruled ⟨hprotected, hname⟩
        · intro report
          rw [says_mapped_iff]
          exact iff_of_false nofun fun h => hruled ⟨h.1.1, h.1.2.1⟩
      · simp only [hquiet]
        simp only [Bool.or_eq_true, not_or, Bool.not_eq_true, Option.any_eq_false] at hquiet
        cases hcandidate : walk.candidate? number next snippetLine snippetColumn
            (nameIndex.bind walk.map.name) with
        | none =>
            have houtside : walk.host.lineCount ≤ walk.placement.hostLine snippetLine := by
              by_contra hline
              obtain ⟨place, hplace⟩ := Placement.exists_toHost_iff.2 (Nat.lt_of_not_le hline)
              rw [candidate?, hplace] at hcandidate
              cases hcandidate
            refine ⟨[], pending, some (walk.outside number next snippetLine),
              Takes.pass ?_ (by rintro _ ⟨⟨⟩, _⟩), ?_, fun _ => rfl⟩
            · rintro ⟨_, _, hline⟩
              omega
            · intro report
              rw [says_mapped_iff, Option.some_inj]
              exact (and_iff_right ⟨hquiet.1, hquiet.2, houtside⟩).symm
        | some candidate =>
            obtain ⟨place, hplace, rfl⟩ := Option.map_eq_some_iff.1 hcandidate
            have hline := Placement.exists_toHost_iff.1 ⟨place, hplace⟩
            have hcount : walk.Counts number next
                (.mapped delta source snippetLine snippetColumn nameIndex) :=
              ⟨hquiet.1, hquiet.2, hline⟩
            refine ⟨_, _, none, takes_hold pending hcount (by rw [target?, hplace]; rfl), ?_,
              fun _ => rfl⟩
            intro report
            rw [says_mapped_iff]
            exact iff_of_false nofun fun h => Nat.not_lt.2 h.1.2.2 hline

/-- The mappings of a line: a segment within reach adds what it settles. -/
theorem line_cons {walk : Walk} {number column next : Nat} {segment : Segment}
    (pending : Option Mapping) (hreached : reached? column segment = some next) :
    ∃ settled after, walk.Takes number next pending segment settled after ∧ ∀ rest,
      (walk.line number column pending (segment :: rest)).1 =
        settled ++ (walk.line number next after rest).1 := by
  obtain ⟨settled, after, said, htakes, _, hline⟩ := line_step pending hreached
  exact ⟨settled, after, htakes, fun rest => congrArg Prod.fst (hline rest)⟩

/-- Where the column overflows, the line ends. -/
theorem line_overflow {walk : Walk} {number column : Nat} {segment : Segment}
    (pending : Option Mapping) (rest : List Segment) (hreached : reached? column segment = none) :
    (walk.line number column pending (segment :: rest)).1 = pending.toList := by
  rw [line, hreached]

/-! ### Whole lines -/

/-- A property of mappings that a walk keeps up on a line: each candidate has it, and neither a new
target nor the end of a range loses it. -/
structure Sustains (walk : Walk) (number : Nat) (P : Mapping → Prop) : Prop where
  candidate : ∀ column segment target, walk.Counts number column segment →
    walk.target? segment = some target →
    P { line := number, column, target, origin := .coalesced }
  retarget : ∀ current segment target, P current → walk.Counts number current.column segment →
    walk.target? segment = some target → P { current with target }
  rangeEnd : ∀ current column delta segment, P current →
    walk.Closes number column delta segment → P (walk.rangeEnd current column delta)

/-- What one segment settles and leaves pending has a property that the walk keeps up. -/
theorem Sustains.takes {walk : Walk} {number column : Nat} {P : Mapping → Prop}
    {pending after : Option Mapping} {segment : Segment} {settled : List Mapping}
    (hP : walk.Sustains number P) (hpending : ∀ m ∈ pending, P m)
    (h : walk.Takes number column pending segment settled after) :
    (∀ m ∈ settled, P m) ∧ ∀ m ∈ after, P m := by
  cases h with
  | pass => exact ⟨by simp, hpending⟩
  | close hclose =>
      have hcurrent := hpending _ rfl
      exact ⟨by simpa using ⟨hcurrent, hP.rangeEnd _ _ _ _ hcurrent hclose⟩, by simp⟩
  | hold hcount htarget hcolumn =>
      exact ⟨by simpa using hpending, by simpa using hP.candidate _ _ _ hcount htarget⟩
  | yield hcount htarget hcolumn hbetter =>
      rw [← hcolumn] at hcount
      exact ⟨by simp, by simpa using hP.retarget _ _ _ (hpending _ rfl) hcount htarget⟩
  | stay => exact ⟨by simp, hpending⟩

theorem Sustains.line {walk : Walk} {number : Nat} {P : Mapping → Prop}
    (hP : walk.Sustains number P) (segments : List Segment) (column : Nat)
    (pending : Option Mapping) (hpending : ∀ m ∈ pending, P m) :
    ∀ m ∈ (walk.line number column pending segments).1, P m := by
  induction segments generalizing column pending with
  | nil => simpa [Walk.line] using hpending
  | cons segment rest ih =>
      cases hreached : reached? column segment with
      | none =>
          rw [line_overflow pending rest hreached]
          simpa using hpending
      | some next =>
          obtain ⟨settled, after, htakes, hline⟩ := line_cons pending hreached
          obtain ⟨hsettled, hafter⟩ := hP.takes hpending htakes
          rw [hline]
          intro m hm
          rcases List.mem_append.1 hm with hm | hm
          · exact hsettled m hm
          · exact ih next after hafter m hm

/-- The walk over a line makes mappings of that line, all of its own pass. -/
theorem sustains_line (walk : Walk) (number : Nat) :
    walk.Sustains number fun m => m.line = number ∧ m.origin = .coalesced where
  candidate _ _ _ _ _ := ⟨rfl, rfl⟩
  retarget _ _ _ h _ _ := h
  rangeEnd _ _ _ _ h _ := h

/-! ### Whole maps -/

/-- A mapping of a list of lines was made on one of them. -/
theorem exists_of_mem_linesFrom {walk : Walk} {m : Mapping} {lines : List (List Segment)}
    {first : Nat} (h : m ∈ (walk.linesFrom first lines).1) :
    ∃ number segments, first ≤ number ∧ m ∈ (walk.line number 0 none segments).1 := by
  induction lines generalizing first with
  | nil => simp [linesFrom] at h
  | cons segments rest ih =>
      rcases List.mem_append.1 h with h | h
      · exact ⟨first, _, Nat.le_refl _, h⟩
      · obtain ⟨number, others, hle, hm⟩ := ih h
        exact ⟨number, others, Nat.le_of_succ_le hle, hm⟩

/-- **What the walk keeps up on each line, all its mappings have.** -/
theorem forall_mem_coalesce {walk : Walk} {P : Mapping → Prop}
    (hP : ∀ number, walk.Sustains number P) : ∀ m ∈ walk.coalesce.1, P m := by
  intro m hm
  obtain ⟨number, segments, _, hm⟩ := exists_of_mem_linesFrom hm
  exact (hP number).line segments 0 none (by simp) m hm

theorem origin_of_mem_coalesce {walk : Walk} {m : Mapping} (h : m ∈ walk.coalesce.1) :
    m.origin = .coalesced := by
  obtain ⟨number, segments, _, hm⟩ := exists_of_mem_linesFrom h
  exact ((walk.sustains_line number).line segments 0 none (by simp) m hm).2

/-- What a list of lines has at a place comes from the line of that place. -/
theorem filter_linesFrom (walk : Walk) (lines : List (List Segment)) (first offset column : Nat) :
    ((walk.linesFrom first lines).1).filter (Mapping.isAt (first + offset) column) =
      ((walk.line (first + offset) 0 none
        (walk.kept (first + offset) (lines[offset]?.getD []))).1).filter
          (Mapping.isAt (first + offset) column) := by
  induction lines generalizing first offset with
  | nil => simp [linesFrom, kept, Walk.line]
  | cons segments rest ih =>
      rw [linesFrom, List.filter_append]
      cases offset with
      | zero =>
          -- all later lines have greater numbers
          have hrest : ((walk.linesFrom (first + 1) rest).1).filter (Mapping.isAt first column) =
              [] := by
            rw [List.filter_eq_nil_iff]
            intro m hm hat
            obtain ⟨number, others, hle, hm⟩ := exists_of_mem_linesFrom hm
            have hline := ((walk.sustains_line number).line others 0 none (by simp) m hm).1
            have := (Mapping.isAt_iff.1 hat).1
            omega
          simp [hrest]
      | succ offset =>
          have hfirst : ((walk.line first 0 none (walk.kept first segments)).1).filter
              (Mapping.isAt (first + (offset + 1)) column) = [] := by
            rw [List.filter_eq_nil_iff]
            intro m hm hat
            have hline := ((walk.sustains_line first).line _ 0 none (by simp) m hm).1
            have := (Mapping.isAt_iff.1 hat).1
            omega
          have hsum : first + (offset + 1) = first + 1 + offset := by omega
          rw [hfirst, List.nil_append, hsum, ih, List.getElem?_cons_succ]

/-- **What a map has at a place comes from the segments of its generated line.** -/
theorem filter_coalesce (walk : Walk) (line column : Nat) :
    (walk.coalesce.1).filter (Mapping.isAt line column) =
      ((walk.line line 0 none (walk.kept line (walk.map.segments line))).1).filter
        (Mapping.isAt line column) := by
  have h := walk.filter_linesFrom walk.map.lines 0 line column
  rwa [Nat.zero_add] at h

end Inlay.Walk
