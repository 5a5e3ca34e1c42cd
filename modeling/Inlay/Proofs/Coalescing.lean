/-
**What the walk leaves at each place.**

`Inlay/Proofs/Eligible.lean` says what each column of a generated line should be mapped to.  Here the
walk is shown to do that.  Along a line it tracks what is due: at every moment the last mapping that it
has made at a column, the pending one included, is what the segments so far ask for.  A range end can
share its column with later segments, but then it was made before them, and of the mappings of one place
merging keeps the last.

Main definitions:

* `Inlay.Mapping.lastTarget` — the target of the last mapping at a place;
* `Inlay.Walk.Tracks` — **the state of the walk fits the segments so far**.

Main results:

* `Inlay.Walk.Tracks.takes` — one segment keeps the walk on track;
* `Inlay.Walk.Tracks.due_line` — so a whole line has at each column what is due there;
* `Inlay.Walk.merge_coalesce_target` — **the merged map has at each place the winner of the eligible
  segments, or else the range end that falls there, or else nothing**.
-/
import Inlay.Proofs.Eligible

set_option autoImplicit false

namespace Inlay

namespace Mapping

/-- The target of the last mapping of a list at a place. -/
def lastTarget (line column : Nat) (mappings : List Mapping) : Option Target :=
  ((mappings.filter (isAt line column)).getLast?).map (·.target)

theorem lastTarget_concat_of_isAt {line column : Nat} {m : Mapping} (mappings : List Mapping)
    (h : isAt line column m = true) :
    lastTarget line column (mappings ++ [m]) = some m.target := by
  simp [lastTarget, h, -isAt_iff]

theorem lastTarget_concat_of_ne {line column : Nat} {m : Mapping} (mappings : List Mapping)
    (h : m.column ≠ column) :
    lastTarget line column (mappings ++ [m]) = lastTarget line column mappings := by
  have hat : isAt line column m = false := by
    rw [← Bool.not_eq_true, isAt_iff]
    exact fun hm => h hm.2
  simp [lastTarget, hat]

end Mapping

namespace Walk

variable {walk : Walk} {line : Nat} {front : List Segment}

/-- What is pending fits the segments so far.  If nothing is, the walk has moved on from every eligible
segment; else the pending mapping stands where the last one is. -/
def Held (walk : Walk) (line : Nat) (front : List Segment) : Option Mapping → Prop
  | none => (∀ start, ¬ walk.Pending line front front.length start) ∧
      ∀ i segment column, walk.Eligible line front i segment column → column < columnAfter front
  | some current => current.line = line ∧
      walk.Pending line front front.length current.column ∧
      ∀ i segment column, walk.Eligible line front i segment column → column ≤ current.column

/-- The walk is on track: what it has settled and what is pending are together what the segments so far
ask for. -/
structure Tracks (walk : Walk) (line : Nat) (front : List Segment) (settled : List Mapping)
    (pending : Option Mapping) : Prop where
  fits : columnAfter front < Word.size
  due : ∀ column,
    walk.Due line front column (Mapping.lastTarget line column (settled ++ pending.toList))
  held : walk.Held line front pending

/-- Before the first segment nothing is due. -/
theorem tracks_nil (walk : Walk) (line : Nat) : walk.Tracks line [] [] none where
  fits := by simp [columnAfter, Word.size]
  due column := by
    refine Due.nothing ?_ ?_
    · intro i other he
      exact Nat.not_lt_zero _ he.reaches.lt_length
    · rintro start delta ⟨i, other, hreaches, _⟩
      exact Nat.not_lt_zero _ hreaches.lt_length
  held := by
    constructor
    · rintro start ⟨i, segment, hi, _⟩
      exact Nat.not_lt_zero _ hi
    · intro i segment column he
      exact (Nat.not_lt_zero _ he.reaches.lt_length).elim

/-- The pending mapping does not stand behind the column of the walk. -/
theorem Held.column_le {current : Mapping} (h : walk.Held line front (some current)) :
    current.column ≤ columnAfter front := by
  obtain ⟨_, ⟨i, segment, _, heligible, _⟩, _⟩ := h
  exact heligible.reaches.le_columnAfter

/-- The pending mapping points at the winner of its column. -/
theorem Tracks.firstBest {settled : List Mapping} {current : Mapping}
    (h : walk.Tracks line front settled (some current)) :
    walk.FirstBest line front current.column current.target := by
  obtain ⟨hline, ⟨i, segment, _, heligible, _⟩, _⟩ := h.held
  have hdue := h.due current.column
  rw [Option.toList_some, Mapping.lastTarget_concat_of_isAt _ (by simp [hline])] at hdue
  exact hdue.firstBest heligible

/-- Away from the pending mapping all that is due is settled. -/
theorem Tracks.due_of_ne {settled : List Mapping} {current : Mapping} {column : Nat}
    (h : walk.Tracks line front settled (some current)) (hcolumn : current.column ≠ column) :
    walk.Due line front column (Mapping.lastTarget line column settled) := by
  have hdue := h.due column
  rwa [Option.toList_some, Mapping.lastTarget_concat_of_ne _ hcolumn] at hdue

/-- Away from the column that a segment reaches, it leaves things alone. -/
theorem quiet_of_ne {last : Segment} {column : Nat}
    (h : column ≠ columnAfter (front ++ [last])) : walk.Quiet line front [last] column := by
  intro i other hi hreaches
  rcases hreaches.concat_cases with hold | ⟨_, _, hcolumn⟩
  · exact absurd hold.lt_length (Nat.not_lt.2 hi)
  · exact (h hcolumn).elim

/-! ### One segment -/

section Step

variable {last : Segment} {settled : List Mapping}

/-- A segment that neither counts nor closes a range keeps the walk on track. -/
theorem Tracks.pass {pending : Option Mapping} (h : walk.Tracks line front settled pending)
    (hfits : columnAfter (front ++ [last]) < Word.size)
    (hcounts : ¬ walk.Counts line (columnAfter (front ++ [last])) last)
    (hcloses : ∀ delta, walk.Closes line (columnAfter (front ++ [last])) delta last →
      pending = none) :
    walk.Tracks line (front ++ [last]) settled pending := by
  have heligible : ∀ i segment column, walk.Eligible line (front ++ [last]) i segment column →
      walk.Eligible line front i segment column := by
    intro i segment column he
    rcases he.concat_cases with hold | ⟨_, _, rfl, hlast⟩
    · exact hold
    · exact (hcounts hlast).elim
  refine ⟨hfits, ?_, ?_⟩
  · intro column
    refine (h.due column).append ?_
    by_cases hcolumn : column = columnAfter (front ++ [last])
    · intro i other hi hreaches
      rcases hreaches.concat_cases with hold | ⟨rfl, rfl, rfl⟩
      · exact absurd hold.lt_length (Nat.not_lt.2 hi)
      · refine ⟨hcounts, ?_⟩
        intro start delta hclose hpending
        have hheld := h.held
        rw [hcloses delta hclose] at hheld
        exact hheld.1 start ((pending_append_iff (Nat.le_refl _)).1 hpending)
    · exact quiet_of_ne hcolumn
  · cases pending with
    | none =>
        refine ⟨?_, ?_⟩
        · intro start hpending
          exact h.held.1 start ((pending_concat_iff hfits hcounts).1 hpending).1
        · intro i segment column he
          have hlt := h.held.2 i segment column (heligible i segment column he)
          rw [columnAfter_append]
          omega
    | some current =>
        obtain ⟨hline, hpending, hle⟩ := h.held
        refine ⟨hline, (pending_concat_iff hfits hcounts).2 ⟨hpending, ?_⟩, ?_⟩
        · intro delta hclose
          cases hcloses delta hclose
        · intro i segment column he
          exact hle i segment column (heligible i segment column he)

/-- A segment that closes the range of the pending mapping keeps the walk on track. -/
theorem Tracks.close {current : Mapping} {delta : Nat}
    (h : walk.Tracks line front settled (some current))
    (hfits : columnAfter (front ++ [last]) < Word.size)
    (hclose : walk.Closes line (columnAfter (front ++ [last])) delta last) :
    walk.Tracks line (front ++ [last])
      (settled ++ [current, walk.rangeEnd current (columnAfter (front ++ [last])) delta]) none := by
  have hcounts : ¬ walk.Counts line (columnAfter (front ++ [last])) last :=
    fun hcounts => hcounts.not_closes hclose
  obtain ⟨hline, hpending, hle⟩ := h.held
  have hbefore : current.column < columnAfter (front ++ [last]) := by
    obtain ⟨rfl, hlong, _⟩ := hclose
    have hcolumn := h.held.column_le
    rw [columnAfter_append, columnAfter_singleton, Segment.delta?, Option.getD_some]
    omega
  -- every eligible segment is in the front, at the column of the pending mapping or before it
  have heligible : ∀ i segment column, walk.Eligible line (front ++ [last]) i segment column →
      column < columnAfter (front ++ [last]) := by
    intro i segment column he
    rcases he.concat_cases with hold | ⟨_, _, rfl, hlast⟩
    · exact (hle i segment column hold).trans_lt hbefore
    · exact (hcounts hlast).elim
  refine ⟨hfits, ?_, ?_, heligible⟩
  · intro column
    rw [Option.toList_none, List.append_nil, List.append_cons settled]
    by_cases hcolumn : column = columnAfter (front ++ [last])
    · subst hcolumn
      rw [Mapping.lastTarget_concat_of_isAt _ (by simp [rangeEnd, hline])]
      refine Due.rangeEnd ?_ ⟨front.length, last, reaches_concat hfits, hclose,
        (pending_append_iff (Nat.le_refl _)).2 hpending⟩ (h.firstBest.append ?_)
      · intro i other he
        exact (lt_irrefl _ (heligible i other _ he))
      · intro i other hi he
        rcases he.concat_cases with hold | ⟨_, _, hsame, _⟩
        · exact absurd hold.reaches.lt_length (Nat.not_lt.2 hi)
        · exact hbefore.ne hsame
    · rw [Mapping.lastTarget_concat_of_ne _ (Ne.symm hcolumn)]
      exact (h.due column).append (quiet_of_ne hcolumn)
  · intro start hafter
    exact ((pending_concat_iff hfits hcounts).1 hafter).2 delta hclose

/-- A walk that holds the winner of the column it has reached is on track, if it is elsewhere. -/
theorem tracks_concat {m : Mapping} (hfits : columnAfter (front ++ [last]) < Word.size)
    (hcounts : walk.Counts line (columnAfter (front ++ [last])) last)
    (hline : m.line = line) (hcolumn : m.column = columnAfter (front ++ [last]))
    (hbest : walk.FirstBest line (front ++ [last]) (columnAfter (front ++ [last])) m.target)
    (hdue : ∀ column, column ≠ columnAfter (front ++ [last]) →
      walk.Due line front column (Mapping.lastTarget line column settled)) :
    walk.Tracks line (front ++ [last]) settled (some m) := by
  refine ⟨hfits, ?_, hline, ?_, ?_⟩
  · intro column
    rw [Option.toList_some]
    by_cases hother : column = columnAfter (front ++ [last])
    · subst hother
      rw [Mapping.lastTarget_concat_of_isAt _ (by simp [hline, hcolumn])]
      exact Due.best hbest
    · rw [Mapping.lastTarget_concat_of_ne _ (by rw [hcolumn]; exact Ne.symm hother)]
      exact (hdue column hother).append (quiet_of_ne hother)
  · rw [hcolumn]
    exact pending_concat hfits hcounts
  · intro i segment column he
    rw [hcolumn]
    exact he.reaches.le_columnAfter

/-- A column that the walk moves on to has had no eligible segment: whatever was eligible before is at the
column of the pending mapping or before it. -/
theorem Tracks.not_eligible {pending : Option Mapping} (h : walk.Tracks line front settled pending)
    (hcolumn : ∀ current, pending = some current → current.column ≠ columnAfter (front ++ [last]))
    (i : Nat) (other : Segment) :
    ¬ walk.Eligible line front i other (columnAfter (front ++ [last])) := by
  intro he
  have hle := columnAfter_le_concat front last
  cases pending with
  | none =>
      have hlt := h.held.2 i other _ he
      omega
  | some current =>
      have hlt := h.held.2.2 i other _ he
      have hcurrent := h.held.column_le
      exact hcolumn current rfl (by omega)

/-- **One segment keeps the walk on track.** -/
theorem Tracks.takes {pending after : Option Mapping} {emitted : List Mapping}
    (h : walk.Tracks line front settled pending)
    (hfits : columnAfter (front ++ [last]) < Word.size)
    (htakes : walk.Takes line (columnAfter (front ++ [last])) pending last emitted after) :
    walk.Tracks line (front ++ [last]) (settled ++ emitted) after := by
  cases htakes with
  | pass hcounts hcloses =>
      rw [List.append_nil]
      exact h.pass hfits hcounts hcloses
  | close hclose => exact h.close hfits hclose
  | hold hcounts htarget hcolumn =>
      exact tracks_concat hfits hcounts rfl rfl
        (firstBest_concat hfits hcounts htarget (h.not_eligible hcolumn)) fun column _ => h.due column
  | yield hcounts htarget hcolumn hbetter =>
      rw [List.append_nil]
      have hbest := h.firstBest
      rw [hcolumn] at hbest
      refine tracks_concat hfits hcounts h.held.1 hcolumn
        (hbest.concat_of_lt hfits hcounts htarget (Target.prefers_iff.1 hbetter)) ?_
      intro column hother
      exact h.due_of_ne (by rw [hcolumn]; exact Ne.symm hother)
  | stay hcounts htarget hcolumn hbetter =>
      rw [List.append_nil]
      have hbest := h.firstBest
      rw [hcolumn] at hbest
      have hle := not_lt.1 fun hlt => Bool.eq_false_iff.1 hbetter (Target.prefers_iff.2 hlt)
      refine tracks_concat hfits hcounts h.held.1 hcolumn (hbest.concat_of_le htarget hle) ?_
      intro column hother
      exact h.due_of_ne (by rw [hcolumn]; exact Ne.symm hother)

end Step

/-! ### Whole lines and whole maps -/

/-- Behind an overflow no segment reaches anything. -/
theorem quiet_of_overflow {last : Segment} {rest : List Segment} {column : Nat}
    (h : Word.size ≤ columnAfter (front ++ [last])) :
    walk.Quiet line front (last :: rest) column := by
  intro i other hi hreaches
  have htake := columnAfter_take_le (front ++ last :: rest) (i := front.length + 1) (j := i + 1)
    (by omega)
  rw [take_length_succ, hreaches.column_eq] at htake
  have hfits := hreaches.fits
  omega

/-- **A walk on track leaves at each column what is due there.** -/
theorem Tracks.due_line {settled : List Mapping} {pending : Option Mapping} (rest : List Segment)
    (h : walk.Tracks line front settled pending) (column : Nat) :
    walk.Due line (front ++ rest) column (Mapping.lastTarget line column
      (settled ++ (walk.line line (columnAfter front) pending rest).1)) := by
  -- the segments go over to the front one by one; an overflow leaves the rest of them unread
  induction rest generalizing front settled pending with
  | nil =>
      rw [List.append_nil]
      exact h.due column
  | cons segment rest ih =>
      have hreached := reached?_columnAfter segment h.fits
      split at hreached
      · next hfits =>
          obtain ⟨emitted, after, htakes, hline⟩ := line_cons pending hreached
          rw [hline, List.append_cons, ← List.append_assoc]
          exact ih (h.takes hfits htakes)
      · next hover =>
          rw [line_overflow pending rest hreached]
          exact (h.due column).append (quiet_of_overflow (Nat.le_of_not_lt hover))

/-- What a walk makes last at a place is what is due there. -/
theorem due_coalesce (walk : Walk) (line column : Nat) :
    walk.Due line (walk.kept line (walk.map.segments line)) column
      (Mapping.lastTarget line column walk.coalesce.1) := by
  have hdue := (walk.tracks_nil line).due_line (walk.kept line (walk.map.segments line)) column
  rw [List.nil_append, List.nil_append] at hdue
  rw [Mapping.lastTarget, filter_coalesce]
  exact hdue

/-- Where nothing else is inserted, merging keeps what a walk makes last. -/
theorem filter_merge_coalesce (walk : Walk) {overrides : List Mapping} {line column : Nat}
    (hnone : ∀ m ∈ overrides, Mapping.isAt line column m = false) :
    (Mapping.merge walk.coalesce.1 overrides).filter (Mapping.isAt line column) =
      ((walk.coalesce.1).filter (Mapping.isAt line column)).getLast?.toList := by
  have hnil : overrides.filter (Mapping.isAt line column) = [] := by
    rw [List.filter_eq_nil_iff]
    intro m hm
    simp [hnone m hm]
  have hsurvivor : Mapping.survivor ((walk.coalesce.1).filter (Mapping.isAt line column)) =
      ((walk.coalesce.1).filter (Mapping.isAt line column)).getLast? :=
    Mapping.survivor_eq_getLast? fun m hm => origin_of_mem_coalesce (List.mem_filter.1 hm).1
  rw [Mapping.filter_merge, List.filter_append, hnil, List.append_nil, hsurvivor]

/-- At each place the merged map holds at most one mapping, and it points at what is due there. -/
theorem exists_due_merge (walk : Walk) (line column : Nat) :
    ∃ held : Option Mapping,
      (∀ m, (m ∈ Mapping.merge walk.coalesce.1 [] ∧ m.line = line ∧ m.column = column) ↔
        held = some m) ∧
      walk.Due line (walk.kept line (walk.map.segments line)) column (held.map (·.target)) := by
  refine ⟨((walk.coalesce.1).filter (Mapping.isAt line column)).getLast?, ?_,
    walk.due_coalesce line column⟩
  intro m
  rw [← Mapping.isAt_iff, ← List.mem_filter, walk.filter_merge_coalesce (by simp), Option.mem_toList]

/-- **The merged map has a mapping at a place exactly if a segment is eligible or a range end falls
there.**  If a segment is eligible, the mapping points at the winner; else at the end of the range of the
winner at the column where the range starts. -/
theorem merge_coalesce_target (walk : Walk) (line column : Nat) :
    let segments := walk.kept line (walk.map.segments line)
    let merged := Mapping.merge walk.coalesce.1 []
    ((∃ m ∈ merged, m.line = line ∧ m.column = column) ↔
      (∃ i segment, walk.Eligible line segments i segment column) ∨
        ∃ start delta, walk.EndsRange line segments column start delta) ∧
    ∀ m ∈ merged, m.line = line → m.column = column →
      ((∃ i segment, walk.Eligible line segments i segment column) →
        walk.FirstBest line segments column m.target) ∧
      ((∀ i segment, ¬ walk.Eligible line segments i segment column) →
        ∃ start delta target, walk.EndsRange line segments column start delta ∧
          walk.FirstBest line segments start target ∧ m.target = walk.endOf target delta) := by
  intro segments merged
  obtain ⟨held, hheld, hdue⟩ := walk.exists_due_merge line column
  refine ⟨?_, ?_⟩
  · rw [← hdue.exists_iff]
    constructor
    · rintro ⟨m, hm⟩
      exact ⟨m.target, by rw [(hheld m).1 hm, Option.map_some]⟩
    · rintro ⟨target, htarget⟩
      obtain ⟨m, hm, _⟩ := Option.map_eq_some_iff.1 htarget
      exact ⟨m, (hheld m).2 hm⟩
  · intro m hm hline hcolumn
    rw [(hheld m).1 ⟨hm, hline, hcolumn⟩, Option.map_some] at hdue
    refine ⟨?_, hdue.endsRange⟩
    rintro ⟨i, segment, heligible⟩
    exact hdue.firstBest heligible

/-- The range end at column 4 would point at the end of the host line, but a segment is eligible there. -/
example :
    Mapping.merge
      (coalesce
        { map := { lines := [[.mapped 0 0 0 1 none, .advance 4, .mapped 0 0 0 3 none, .advance 2]] }
          analysis := { status := .completed }
          host := ⟨"host", "ab d"⟩
          placement := ⟨0, 0, 0⟩
          adjustSeparators := false }).1 [] =
      [⟨0, 0, ⟨0, 1, none⟩, .coalesced⟩, ⟨0, 4, ⟨0, 3, none⟩, .coalesced⟩,
        ⟨0, 6, ⟨0, 4, none⟩, .coalesced⟩] := by
  cbv

end Walk

end Inlay
