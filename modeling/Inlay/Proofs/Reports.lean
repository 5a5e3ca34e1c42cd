/-
**What a walk reports.**

A walk over the segments of a map reports what it skips.  Which segments are reported can be read off each
line without walking it: a segment within reach is reported if it is malformed, wherever it is, or if it asks
for a host line that is not there and nothing else rules it out; and the segment at which the column overflows
is reported at the column before it.  What is pending has no part in this, and neither has any other line.
This module states this and shows that the reports of a walk are these, in the order of the segments.

Main definitions:

* `Inlay.Walk.Reports` — **what is reported of a segment of a line**;
* `Inlay.Walk.Entry` — a report with the segment that it is about.

Main results:

* `Inlay.Walk.line_cons_reports` — one segment adds what is reported of it;
* `Inlay.Walk.exists_log_line`, `Inlay.Walk.exists_log_linesFrom` — the reports of a line and of lines;
* `Inlay.Walk.coalesce_reports` — **a walk reports exactly what is to be reported, in order**.
-/
import Inlay.Proofs.Eligible

set_option autoImplicit false

namespace Inlay.Walk

variable {walk : Walk} {line index column : Nat} {segment : Segment} {front rest : List Segment}
  {report : Diagnostic}

/-! ### Reports -/

/-- What is reported of the segment with the given index: what is reported of it at the column that it
reaches; or that the column overflows there, at the column before it. -/
inductive Reports (walk : Walk) (line : Nat) (segments : List Segment) (index : Nat) :
    Diagnostic → Prop
  | reached {segment : Segment} {column : Nat} {report : Diagnostic}
      (hreaches : Reaches segments index segment column)
      (hsaid : walk.Says line column segment report) : Reports walk line segments index report
  | overflow {segment : Segment} (hhere : segments[index]? = some segment)
      (hbefore : columnAfter (segments.take index) < Word.size)
      (hover : Word.size ≤ columnAfter (segments.take (index + 1))) :
      Reports walk line segments index
        { code := .malformedSegment
          kind := .warning
          detail := "column delta " ++ Json.intText (segment.delta?.getD 0 : Nat)
            ++ " overflows the generated column"
          generated := some ⟨line, columnAfter (segments.take index)⟩ }

/-- Only segments that are there are reported. -/
theorem Reports.lt_length {segments : List Segment} (h : walk.Reports line segments index report) :
    index < segments.length := by
  cases h with
  | reached hreaches => exact hreaches.lt_length
  | overflow hhere => exact (List.getElem?_eq_some_iff.1 hhere).1

/-- Of a segment within reach is reported what its column and its own fields say. -/
theorem reports_here_iff (hfits : columnAfter (front ++ [segment]) < Word.size) :
    walk.Reports line (front ++ segment :: rest) front.length report ↔
      walk.Says line (columnAfter (front ++ [segment])) segment report := by
  have htake := take_length_succ front segment rest
  have hhere : (front ++ segment :: rest)[front.length]? = some segment := by simp
  constructor
  · intro h
    cases h with
    | reached hreaches hsaid =>
        obtain rfl := Option.some.inj (hhere.symm.trans hreaches.here)
        rw [← htake, hreaches.column_eq]
        exact hsaid
    | overflow _ _ hover =>
        rw [htake] at hover
        omega
  · intro hsaid
    exact Reports.reached ⟨hhere, by rw [htake], hfits⟩ hsaid

/-- The segment right behind a front, or one further on. -/
theorem reports_behind_iff (hfits : columnAfter (front ++ [segment]) < Word.size) :
    (front.length ≤ index ∧ walk.Reports line (front ++ segment :: rest) index report) ↔
      (index = front.length ∧ walk.Says line (columnAfter (front ++ [segment])) segment report) ∨
        ((front ++ [segment]).length ≤ index ∧
          walk.Reports line (front ++ [segment] ++ rest) index report) := by
  rw [← List.append_cons, List.length_append, List.length_singleton]
  constructor
  · rintro ⟨hle, h⟩
    rcases Nat.eq_or_lt_of_le hle with rfl | hlt
    · exact Or.inl ⟨rfl, (reports_here_iff hfits).1 h⟩
    · exact Or.inr ⟨hlt, h⟩
  · rintro (⟨rfl, hsaid⟩ | ⟨hle, h⟩)
    · exact ⟨Nat.le_refl _, (reports_here_iff hfits).2 hsaid⟩
    · exact ⟨by omega, h⟩

/-- At the segment where the column overflows, and behind it, only the overflow is reported. -/
theorem reports_overflow_iff (hfits : columnAfter front < Word.size)
    (hover : Word.size ≤ columnAfter (front ++ [segment])) :
    (front.length ≤ index ∧ walk.Reports line (front ++ segment :: rest) index report) ↔
      (index = front.length ∧
        report = overflow line (columnAfter front) (segment.delta?.getD 0)) := by
  have htake := take_length_succ front segment rest
  have hfront : (front ++ segment :: rest).take front.length = front := List.take_left
  have hhere : (front ++ segment :: rest)[front.length]? = some segment := by simp
  constructor
  · rintro ⟨hle, h⟩
    -- behind the overflow all columns are too large
    have hlarge : ∀ j, front.length + 1 ≤ j →
        Word.size ≤ columnAfter ((front ++ segment :: rest).take j) := by
      intro j hj
      have hmono := columnAfter_take_le (front ++ segment :: rest) hj
      rw [htake] at hmono
      omega
    cases h with
    | reached hreaches =>
        have hcolumn := hlarge (index + 1) (by omega)
        have hsmall := hreaches.fits
        rw [hreaches.column_eq] at hcolumn
        omega
    | overflow hat hbefore _ =>
        obtain rfl : index = front.length := by
          by_contra hne
          have hcolumn := hlarge index (by omega)
          omega
        obtain rfl := Option.some.inj (hhere.symm.trans hat)
        rw [hfront]
        exact ⟨rfl, rfl⟩
  · rintro ⟨rfl, rfl⟩
    have h : walk.Reports line (front ++ segment :: rest) front.length _ :=
      Reports.overflow hhere (by rwa [hfront]) (by rwa [htake])
    rw [hfront] at h
    exact ⟨Nat.le_refl _, h⟩

/-! ### One segment -/

/-- A segment within reach adds what is reported of it, and the walk goes on behind it. -/
theorem line_cons_reports {number next : Nat} (pending : Option Mapping)
    (hreached : reached? column segment = some next) :
    ∃ said after, (∀ report, said = some report ↔ walk.Says number next segment report) ∧
      ∀ rest, (walk.line number column pending (segment :: rest)).2 =
        said.toList ++ (walk.line number next after rest).2 := by
  obtain ⟨_, after, said, _, hsaid, hline⟩ := walk.line_step pending hreached
  exact ⟨said, after, hsaid, fun rest => congrArg Prod.snd (hline rest)⟩

/-! ### Whole lines and whole maps -/

/-- A report with the segment that it is about. -/
structure Entry where
  line : Nat
  /-- The index of the segment on its line. -/
  index : Nat
  report : Diagnostic
  deriving DecidableEq, Repr

/-- The order of segments: by line, then by index. -/
def Entry.Before (a b : Entry) : Prop :=
  a.line < b.line ∨ a.line = b.line ∧ a.index < b.index

/-- **The reports of a line are those of its segments, in order.** -/
theorem exists_log_line (walk : Walk) (line : Nat) (rest : List Segment) (pending : Option Mapping)
    (hfits : columnAfter front < Word.size) :
    ∃ log : List Entry,
      log.map Entry.report = (walk.line line (columnAfter front) pending rest).2 ∧
      log.Pairwise Entry.Before ∧
      ∀ entry, entry ∈ log ↔ entry.line = line ∧ front.length ≤ entry.index ∧
        walk.Reports line (front ++ rest) entry.index entry.report := by
  -- the segments go over to the front one by one; an overflow leaves the rest of them unread
  induction rest generalizing front pending with
  | nil =>
      refine ⟨[], rfl, List.Pairwise.nil, ?_⟩
      intro entry
      refine iff_of_false (List.not_mem_nil) ?_
      rintro ⟨_, hle, h⟩
      have hlt := h.lt_length
      rw [List.append_nil] at hlt
      omega
  | cons segment rest ih =>
      have hreached := reached?_columnAfter segment hfits
      split at hreached
      · next hnext =>
          obtain ⟨said, after, hsaid, hline⟩ := walk.line_cons_reports pending hreached
          obtain ⟨log, hlog, hsorted, hmem⟩ := ih after hnext
          refine ⟨(said.map (Entry.mk line front.length)).toList ++ log, ?_, ?_, ?_⟩
          · rw [hline, List.map_append, hlog]
            cases said <;> rfl
          · rw [List.pairwise_append]
            refine ⟨by cases said <;> simp, hsorted, ?_⟩
            intro a ha b hb
            obtain ⟨report, _, rfl⟩ := Option.map_eq_some_iff.1 (Option.mem_toList.1 ha)
            obtain ⟨hsame, hle, _⟩ := (hmem b).1 hb
            rw [List.length_append, List.length_singleton] at hle
            exact Or.inr ⟨hsame.symm, hle⟩
          · rintro ⟨number, index, report⟩
            rw [reports_behind_iff hnext, List.mem_append, hmem, Option.mem_toList,
              Option.map_eq_some_iff]
            simp only [← hsaid, Entry.mk.injEq]
            grind
      · next hover =>
          refine ⟨[⟨line, front.length, overflow line (columnAfter front) (segment.delta?.getD 0)⟩],
            ?_, List.pairwise_singleton .., ?_⟩
          · rw [Walk.line, hreached]
            rfl
          · rintro ⟨number, index, report⟩
            rw [reports_overflow_iff hfits (Nat.le_of_not_lt hover), List.mem_singleton]
            simp only [Entry.mk.injEq]

/-- The reports of a list of lines are those of each line, in order. -/
theorem exists_log_linesFrom (walk : Walk) (first : Nat) (lines : List (List Segment)) :
    ∃ log : List Entry,
      log.map Entry.report = (walk.linesFrom first lines).2 ∧
      log.Pairwise Entry.Before ∧
      ∀ entry, entry ∈ log ↔ first ≤ entry.line ∧
        walk.Reports entry.line (walk.kept entry.line (lines[entry.line - first]?.getD []))
          entry.index entry.report := by
  induction lines generalizing first with
  | nil =>
      refine ⟨[], rfl, List.Pairwise.nil, ?_⟩
      intro entry
      refine iff_of_false List.not_mem_nil ?_
      rintro ⟨_, h⟩
      have hlt := h.lt_length
      simp [kept] at hlt
  | cons segments rest ih =>
      -- every line starts again at column zero, with nothing pending
      have hstart : columnAfter [] < Word.size := by decide
      obtain ⟨here, hhere, hsorted, hmem⟩ :=
        walk.exists_log_line first (walk.kept first segments) none hstart
      obtain ⟨later, hlater, hsorted', hmem'⟩ := ih (first + 1)
      refine ⟨here ++ later, ?_, ?_, ?_⟩
      · rw [List.map_append, hhere, hlater]
        rfl
      · rw [List.pairwise_append]
        refine ⟨hsorted, hsorted', ?_⟩
        intro a ha b hb
        have hline := ((hmem a).1 ha).1
        have hnext := ((hmem' b).1 hb).1
        exact Or.inl (by omega)
      · intro entry
        rw [List.mem_append, hmem, hmem']
        constructor
        · rintro (⟨hline, _, h⟩ | ⟨hle, h⟩)
          · rw [← hline] at h
            simpa [← hline] using h
          · have hoffset : entry.line - first = entry.line - (first + 1) + 1 := by omega
            rw [hoffset, List.getElem?_cons_succ]
            exact ⟨by omega, h⟩
        · rintro ⟨hle, h⟩
          rcases Nat.eq_or_lt_of_le hle with rfl | hlt
          · left
            simpa using h
          · have hoffset : entry.line - first = entry.line - (first + 1) + 1 := by omega
            rw [hoffset, List.getElem?_cons_succ] at h
            exact Or.inr ⟨hlt, h⟩

/-- **A walk reports exactly what is to be reported of the segments that count, in order.**  Its reports can
be laid out as a log in which lines and indices strictly increase, and which has an entry for a segment
exactly if the segment is one that is kept on its line and the entry is what is reported of it. -/
theorem coalesce_reports (walk : Walk) :
    ∃ log : List Entry,
      log.map Entry.report = walk.coalesce.2 ∧
      log.Pairwise (fun a b => a.line < b.line ∨ a.line = b.line ∧ a.index < b.index) ∧
      ∀ entry, entry ∈ log ↔
        walk.Reports entry.line (walk.kept entry.line (walk.map.segments entry.line))
          entry.index entry.report := by
  obtain ⟨log, hlog, hsorted, hmem⟩ := walk.exists_log_linesFrom 0 walk.map.lines
  refine ⟨log, hlog, hsorted, ?_⟩
  intro entry
  rw [hmem, Nat.sub_zero]
  exact and_iff_right (Nat.zero_le _)

/-- On the first line an unreadable segment and one outside the host are reported; on the second the column
overflows, and what comes behind is not read. -/
example :
    (coalesce
      { map := { lines := [[.malformed none .empty, .mapped 3 0 9 0 none],
          [.advance (2 ^ 64 - 1), .mapped 1 0 0 0 none, .malformed none .empty]] }
        analysis := { status := .completed }
        host := ⟨"host", "ab d"⟩
        placement := ⟨0, 0, 0⟩
        adjustSeparators := false }).2.map (fun report => (report.code, report.generated)) =
      [(.malformedSegment, some ⟨0, 0⟩), (.outOfBounds, some ⟨0, 3⟩),
        (.malformedSegment, some ⟨1, 2 ^ 64 - 1⟩)] := by
  decide +kernel

end Inlay.Walk
