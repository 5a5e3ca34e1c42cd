/-
**The order of what a walk makes.**

A walk makes a mapping known late: when the next one starts, when an advance ends its range, or when the line
is over.  Still the mappings come out in the order of their generated places.  A place can come twice, but
then the first time is the end of a range, and the second time is the mapping of segments that were there; so
merging, which keeps the last, prefers the segments.

Main definitions:

* `Inlay.Walk.Grows` — **what one more segment adds** to the mappings made of a line;
* `Inlay.Walk.IsRangeEnd` — a mapping is the end of a range that was flushed on a line;
* `Inlay.Walk.Stands` — what can stand at a column;
* `Inlay.Walk.Orderly` — the mappings made of the front of a line are in order.

Main results:

* `Inlay.Walk.line_concat` — the walk adds what the relation says, segment by segment;
* `Inlay.Walk.orderly_line` — what it makes of a line is in order;
* `Inlay.Walk.coalesce_in_order` — **what it makes of a map is in order, and a place that comes twice is the
  end of a range before the mapping of a segment**.
-/
import Inlay.Proofs.Ranges

set_option autoImplicit false

namespace Inlay.Walk

variable {walk : Walk} {line : Nat} {front : List Segment} {last : Segment}

/-! ### One more segment -/

/-- The last segment of a front reaches the column after it. -/
theorem Reaches.column_concat {column : Nat} (h : Reaches (front ++ [last]) front.length last column) :
    column = columnAfter (front ++ [last]) := by
  rcases h.concat_cases with hold | ⟨_, _, hcolumn⟩
  · exact absurd hold.lt_length (Nat.lt_irrefl _)
  · exact hcolumn

/-- What one more segment adds to the mappings made of the front of a line: nothing; the end of a range; the
mapping of a segment, at a column that had none; or another target for the last one. -/
inductive Grows (walk : Walk) (line : Nat) (front : List Segment) (last : Segment) :
    List Mapping → List Mapping → Prop
  | nothing {made : List Mapping} : Grows walk line front last made made
  | finish {made : List Mapping} {delta : Nat} {start finish : Mapping}
      (hlast : last = .advance delta) (hflush : walk.Flushes line front delta start finish) :
      Grows walk line front last made (made ++ [finish])
  | start {made : List Mapping} {m : Mapping}
      (heligible : walk.Eligible line (front ++ [last]) front.length last m.column)
      (hline : m.line = line) (hnone : ∀ i other, ¬ walk.Eligible line front i other m.column) :
      Grows walk line front last made (made ++ [m])
  | retarget {made : List Mapping} {m : Mapping} {target : Target}
      (heligible : walk.Eligible line (front ++ [last]) front.length last m.column) :
      Grows walk line front last (made ++ [m]) (made ++ [{ m with target }])

/-- **One more segment adds what the relation says.** -/
theorem line_concat (walk : Walk) (line : Nat) (front : List Segment) (last : Segment) :
    walk.Grows line front last (walk.line line 0 none front).1
      (walk.line line 0 none (front ++ [last])).1 := by
  rcases Nat.lt_or_ge (columnAfter (front ++ [last])) Word.size with hfits | hover
  · obtain ⟨settled, pending, harrives⟩ :=
      walk.exists_arrives line ((columnAfter_le_concat front last).trans_lt hfits)
    obtain ⟨emitted, after, htakes, hconcat⟩ := harrives.concat hfits
    rw [harrives.line_eq, hconcat.line_eq]
    cases htakes with
    | pass =>
        rw [List.append_nil]
        exact Grows.nothing
    | close hclose =>
        obtain ⟨rfl, hlong, hprotected⟩ := hclose
        rw [columnAfter_concat_advance] at hfits hprotected ⊢
        rw [Option.toList_none, List.append_nil, List.append_cons settled]
        exact Grows.finish rfl
          (flushes_iff.2 ⟨settled, harrives, hfits, ⟨rfl, hlong, hprotected⟩, rfl⟩)
    | hold hcounts _ hcolumn =>
        exact Grows.start (eligible_concat hfits hcounts) rfl (harrives.tracks.not_eligible hcolumn)
    | yield hcounts _ hcolumn =>
        rw [List.append_nil]
        exact Grows.retarget (hcolumn ▸ eligible_concat hfits hcounts)
    | stay =>
        rw [List.append_nil]
        exact Grows.nothing
  · rw [walk.line_append_of_overflow line [] hover]
    exact Grows.nothing

/-! ### What stands at a column -/

/-- A mapping is the end of a range that was flushed on a line. -/
def IsRangeEnd (walk : Walk) (line : Nat) (segments : List Segment) (m : Mapping) : Prop :=
  ∃ front delta rest start, segments = front ++ .advance delta :: rest ∧
    walk.Flushes line front delta start m

theorem IsRangeEnd.append {m : Mapping} (h : walk.IsRangeEnd line front m) (more : List Segment) :
    walk.IsRangeEnd line (front ++ more) m := by
  obtain ⟨before, delta, rest, start, rfl, hflush⟩ := h
  exact ⟨before, delta, rest ++ more, start, by simp, hflush⟩

/-- What can stand at a column: at most the end of a range, and behind it the mapping of a segment that is
eligible there. -/
inductive Stands (walk : Walk) (line : Nat) (front : List Segment) (column : Nat) :
    List Mapping → Prop
  | nothing : Stands walk line front column []
  | finish {m : Mapping} (hend : walk.IsRangeEnd line front m) : Stands walk line front column [m]
  | start {m : Mapping} (heligible : ∃ i segment, walk.Eligible line front i segment column) :
      Stands walk line front column [m]
  | both {m n : Mapping} (hend : walk.IsRangeEnd line front m)
      (heligible : ∃ i segment, walk.Eligible line front i segment column) :
      Stands walk line front column [m, n]

variable {column : Nat} {here : List Mapping}

/-- What stands at a column can stand there whatever comes later. -/
theorem Stands.append (h : walk.Stands line front column here) (more : List Segment) :
    walk.Stands line (front ++ more) column here := by
  have hmore : (∃ i segment, walk.Eligible line front i segment column) →
      ∃ i segment, walk.Eligible line (front ++ more) i segment column := by
    rintro ⟨i, segment, he⟩
    exact ⟨i, segment, (eligible_append_iff he.reaches.lt_length).2 he⟩
  cases h with
  | nothing => exact Stands.nothing
  | finish hend => exact Stands.finish (hend.append more)
  | start heligible => exact Stands.start (hmore heligible)
  | both hend heligible => exact Stands.both (hend.append more) (hmore heligible)

/-- The first eligible segment of a column adds its mapping to what stands there. -/
theorem Stands.concat_start {m : Mapping} (h : walk.Stands line front column here)
    (hnone : ∀ i other, ¬ walk.Eligible line front i other column)
    (heligible : walk.Eligible line (front ++ [last]) front.length last column) :
    walk.Stands line (front ++ [last]) column (here ++ [m]) := by
  cases h with
  | nothing => exact Stands.start ⟨_, _, heligible⟩
  | finish hend => exact Stands.both (hend.append _) ⟨_, _, heligible⟩
  | start hbefore | both _ hbefore =>
      obtain ⟨i, other, he⟩ := hbefore
      exact (hnone i other he).elim

theorem Stands.length_le (h : walk.Stands line front column here) : here.length ≤ 2 := by
  cases h <;> simp

/-- Before the last mapping at a column there is at most the end of a range. -/
theorem Stands.concat_cases {m : Mapping} (h : walk.Stands line front column (here ++ [m])) :
    here = [] ∨ ∃ e, here = [e] ∧ walk.IsRangeEnd line front e := by
  rcases here with _ | ⟨e, _ | ⟨second, rest⟩⟩
  · exact Or.inl rfl
  · cases h with
    | both hend => exact Or.inr ⟨e, rfl, hend⟩
  · have hlength := h.length_le
    simp at hlength

/-- Without the last of it, what stands at a column can still stand there. -/
theorem Stands.of_concat {m : Mapping} (h : walk.Stands line front column (here ++ [m])) :
    walk.Stands line front column here := by
  rcases h.concat_cases with rfl | ⟨e, rfl, hend⟩
  · exact Stands.nothing
  · exact Stands.finish hend

/-- Another eligible segment of a column can exchange the last mapping there. -/
theorem Stands.concat_retarget {m n : Mapping}
    (h : walk.Stands line front column (here ++ [m]))
    (heligible : walk.Eligible line (front ++ [last]) front.length last column) :
    walk.Stands line (front ++ [last]) column (here ++ [n]) := by
  rcases h.concat_cases with rfl | ⟨e, rfl, hend⟩
  · exact Stands.start ⟨_, _, heligible⟩
  · exact Stands.both (hend.append _) ⟨_, _, heligible⟩

/-! ### Whole lines -/

/-- What is made of the front of a line is in order: columns do not decrease, none is beyond the column of
the walk, and at each column stands what can stand there. -/
structure Orderly (walk : Walk) (line : Nat) (front : List Segment) (made : List Mapping) : Prop where
  sorted : made.Pairwise fun a b => a.column ≤ b.column
  within : ∀ m ∈ made, m.line = line ∧ m.column ≤ columnAfter front
  stands : ∀ column, walk.Stands line front column (made.filter (Mapping.isAt line column))

theorem orderly_nil (walk : Walk) (line : Nat) : walk.Orderly line [] [] where
  sorted := List.Pairwise.nil
  within := by simp
  stands _ := Stands.nothing

variable {made : List Mapping}

/-- With one more segment the columns made so far are still within reach. -/
theorem Orderly.within_concat (h : walk.Orderly line front made) (last : Segment) :
    ∀ m ∈ made, m.line = line ∧ m.column ≤ columnAfter (front ++ [last]) := by
  intro m hm
  obtain ⟨hline, hcolumn⟩ := h.within m hm
  exact ⟨hline, hcolumn.trans (columnAfter_le_concat front last)⟩

/-- A mapping at the column of the walk goes behind what is made so far. -/
theorem Orderly.concat {m : Mapping} (h : walk.Orderly line front made) (hline : m.line = line)
    (hcolumn : m.column = columnAfter (front ++ [last]))
    (hstands : walk.Stands line (front ++ [last]) m.column
      (made.filter (Mapping.isAt line m.column) ++ [m])) :
    walk.Orderly line (front ++ [last]) (made ++ [m]) := by
  refine ⟨?_, ?_, ?_⟩
  · rw [List.pairwise_append]
    refine ⟨h.sorted, List.pairwise_singleton .., ?_⟩
    intro a ha b hb
    obtain rfl := List.mem_singleton.1 hb
    rw [hcolumn]
    exact (h.within_concat last a ha).2
  · intro a ha
    rcases List.mem_append.1 ha with ha | ha
    · exact h.within_concat last a ha
    · obtain rfl := List.mem_singleton.1 ha
      exact ⟨hline, hcolumn.le⟩
  · intro column
    rw [List.filter_append]
    by_cases hother : column = m.column
    · subst hother
      have hat : [m].filter (Mapping.isAt line m.column) = [m] := by simp [hline]
      rw [hat]
      exact hstands
    · have hat : [m].filter (Mapping.isAt line column) = [] := by simp [Ne.symm hother]
      rw [hat, List.append_nil]
      exact (h.stands column).append [last]

/-- Without the last of it, what is made is still in order. -/
theorem Orderly.of_concat {m : Mapping} (h : walk.Orderly line front (made ++ [m])) :
    walk.Orderly line front made := by
  refine ⟨(List.pairwise_append.1 h.sorted).1, fun a ha => h.within a (List.mem_append_left _ ha), ?_⟩
  intro column
  have hstands := h.stands column
  rw [List.filter_append] at hstands
  cases hat : Mapping.isAt line column m with
  | true =>
      rw [List.filter_cons_of_pos hat, List.filter_nil] at hstands
      exact hstands.of_concat
  | false =>
      rwa [List.filter_cons_of_neg (by simp [hat]), List.filter_nil, List.append_nil] at hstands

/-- Another eligible segment exchanges the target of the last mapping at its column. -/
theorem Orderly.retarget {m : Mapping} {target : Target}
    (h : walk.Orderly line front (made ++ [m]))
    (heligible : walk.Eligible line (front ++ [last]) front.length last m.column) :
    walk.Orderly line (front ++ [last]) (made ++ [{ m with target }]) := by
  have hline : m.line = line := (h.within m (by simp)).1
  have hstands := h.stands m.column
  rw [List.filter_append, List.filter_cons_of_pos (by simp [hline]), List.filter_nil] at hstands
  exact h.of_concat.concat hline heligible.reaches.column_concat (hstands.concat_retarget heligible)

/-- The end of a flushed range stands alone: it is beyond all that was made before. -/
theorem Orderly.concat_finish {delta : Nat} {start finish : Mapping}
    (h : walk.Orderly line front made) (hflush : walk.Flushes line front delta start finish) :
    walk.Orderly line (front ++ [.advance delta]) (made ++ [finish]) := by
  have hend : walk.IsRangeEnd line (front ++ [.advance delta]) finish :=
    ⟨front, delta, [], start, rfl, hflush⟩
  obtain ⟨settled, harrives, _, ⟨_, hlong, _⟩, rfl⟩ := flushes_iff.1 hflush
  refine h.concat harrives.tracks.held.1 (columnAfter_concat_advance front delta).symm ?_
  -- the step is not zero, so the end is beyond the column that the walk had reached
  have hnil : made.filter (Mapping.isAt line (columnAfter front + delta)) = [] := by
    rw [List.filter_eq_nil_iff]
    intro m hm hat
    have hwithin := (h.within m hm).2
    have hcolumn := (Mapping.isAt_iff.1 hat).2
    omega
  simp only [rangeEnd] at hend ⊢
  rw [hnil]
  exact Stands.finish hend

/-- **One more segment keeps what is made in order.** -/
theorem Orderly.grows {next : List Mapping} (h : walk.Orderly line front made)
    (hgrows : walk.Grows line front last made next) :
    walk.Orderly line (front ++ [last]) next := by
  cases hgrows with
  | nothing => exact ⟨h.sorted, h.within_concat last, fun column => (h.stands column).append [last]⟩
  | finish hlast hflush =>
      subst hlast
      exact h.concat_finish hflush
  | start heligible hline hnone =>
      exact h.concat hline heligible.reaches.column_concat
        ((h.stands _).concat_start hnone heligible)
  | retarget heligible => exact h.retarget heligible

/-- What a walk makes of a line is in order. -/
theorem orderly_line (walk : Walk) (line : Nat) (segments : List Segment) :
    walk.Orderly line segments (walk.line line 0 none segments).1 := by
  -- the walk only changes the end of what it has made, so the induction takes segments from the end
  induction segments using List.reverseRecOn with
  | nil => exact walk.orderly_nil line
  | append_singleton front last ih => exact ih.grows (walk.line_concat line front last)

/-! ### Whole maps -/

/-- What a walk makes of a list of lines is in the order of its places. -/
theorem pairwise_linesFrom (walk : Walk) (first : Nat) (lines : List (List Segment)) :
    (walk.linesFrom first lines).1.Pairwise
      fun a b => a.line < b.line ∨ a.line = b.line ∧ a.column ≤ b.column := by
  induction lines generalizing first with
  | nil => exact List.Pairwise.nil
  | cons segments rest ih =>
      have horderly := walk.orderly_line first (walk.kept first segments)
      rw [linesFrom, List.pairwise_append]
      refine ⟨?_, ih (first + 1), ?_⟩
      · refine horderly.sorted.imp_of_mem ?_
        intro a b ha hb hle
        exact Or.inr ⟨(horderly.within a ha).1.trans (horderly.within b hb).1.symm, hle⟩
      · -- across lines the numbers decide
        intro a ha b hb
        obtain ⟨number, others, hnumber, hb⟩ := exists_of_mem_linesFrom hb
        have hline := (horderly.within a ha).1
        have hother := ((walk.orderly_line number others).within b hb).1
        omega

/-- **What a walk makes is in order.**  Generated places do not decrease, and none comes more than twice.  If
one comes twice, the first mapping is the end of a flushed range, and the second points where the best of the
segments at that column does; so without an override at the place, merging keeps the second. -/
theorem coalesce_in_order (walk : Walk) :
    (walk.coalesce.1.Pairwise
      fun a b => a.line < b.line ∨ a.line = b.line ∧ a.column ≤ b.column) ∧
    ∀ line column,
      let segments := walk.kept line (walk.map.segments line)
      let here := walk.coalesce.1.filter (Mapping.isAt line column)
      here.length ≤ 2 ∧
      ∀ first second, here = [first, second] →
        (∃ front delta rest start, segments = front ++ .advance delta :: rest ∧
          walk.Flushes line front delta start first) ∧
        walk.FirstBest line segments column second.target ∧
        ∀ overrides, (∀ m ∈ overrides, Mapping.isAt line column m = false) →
          (Mapping.merge walk.coalesce.1 overrides).filter (Mapping.isAt line column) = [second] := by
  refine ⟨walk.pairwise_linesFrom 0 walk.map.lines, ?_⟩
  intro line column segments here
  have hstands := (walk.orderly_line line segments).stands column
  rw [← walk.filter_coalesce line column] at hstands
  refine ⟨hstands.length_le, ?_⟩
  intro first second (htwo : walk.coalesce.1.filter (Mapping.isAt line column) = [first, second])
  rw [htwo] at hstands
  cases hstands with
  | both hend heligible =>
      obtain ⟨index, segment, heligible⟩ := heligible
      refine ⟨hend, ?_, ?_⟩
      · -- the last mapping at a place is what is due there, and here that is the winner
        have hdue := walk.due_coalesce line column
        rw [Mapping.lastTarget, htwo] at hdue
        exact hdue.firstBest heligible
      · intro overrides hnone
        rw [walk.filter_merge_coalesce hnone, htwo]
        rfl

/-- A range ends at column 4, and then a segment maps that column. -/
theorem coalesce_in_order_shared_column :
    ∃ (walk : Walk) (first second : Mapping),
      walk = ⟨.ofLines [[[0, 0, 0, 1], [4], [0, 0, 0, 3]]] none, { status := .completed },
        ⟨"App.svelte", "ab de\n"⟩, ⟨0, 0, 0⟩, true⟩ ∧
      walk.coalesce.1.filter (Mapping.isAt 0 4) = [first, second] ∧
      (∃ front delta rest start,
        walk.kept 0 (walk.map.segments 0) = front ++ .advance delta :: rest ∧
          walk.Flushes 0 front delta start first) ∧
      (Mapping.merge walk.coalesce.1 [⟨0, 2, ⟨0, 0, some "ab"⟩, .override⟩]).filter
        (Mapping.isAt 0 4) = [second] := by
  let walk : Walk := ⟨.ofLines [[[0, 0, 0, 1], [4], [0, 0, 0, 3]]] none, { status := .completed },
    ⟨"App.svelte", "ab de\n"⟩, ⟨0, 0, 0⟩, true⟩
  have htwo : walk.coalesce.1.filter (Mapping.isAt 0 4) =
      [⟨0, 4, ⟨0, 5, none⟩, .coalesced⟩, ⟨0, 4, ⟨0, 3, none⟩, .coalesced⟩] := by decide +kernel
  obtain ⟨hend, _, hmerge⟩ := ((coalesce_in_order walk).2 0 4).2 _ _ htwo
  exact ⟨walk, _, _, rfl, htwo, hend, hmerge _ (by decide)⟩

end Inlay.Walk
