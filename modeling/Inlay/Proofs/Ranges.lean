/-
**Where ranges end.**

A long advance behind a pending mapping makes a range of it: the mapping itself, and an end whose host column
is that of the mapping plus the step.  The generated column of the end is where the walk stands after the
step, and the walk may have moved on since the mapping was made: by short advances, by malformed segments,
by segments that do not count.  This module says exactly how far the end lies from the start, and that the
two sides are equally wide only if nothing moved the column in between.

Main definitions:

* `Inlay.Walk.Arrives` — what a walk has settled and holds behind the front of a line;
* `Inlay.Walk.Flushes` — **an advance makes the walk flush a range**.

Main results:

* `Inlay.Walk.exists_arrives` — a front without overflow is walked to its end;
* `Inlay.Walk.flushes_iff` — when an advance flushes a range, and which;
* `Inlay.Walk.flush_aligned_iff` — **the end of a range is aligned with its start exactly if no segment
  moved the column in between**.
-/
import Inlay.Proofs.Bounds
import Inlay.Proofs.Coalescing
import Mathlib.Data.List.Induction

set_option autoImplicit false

namespace Inlay.Walk

variable {walk : Walk} {line : Nat} {front : List Segment}

/-! ### The front of a line -/

/-- Behind the front of a line the walk has settled some mappings and holds a pending one, and it goes on
from there whatever comes. -/
structure Arrives (walk : Walk) (line : Nat) (front : List Segment) (settled : List Mapping)
    (pending : Option Mapping) : Prop where
  tracks : walk.Tracks line front settled pending
  goes_on : ∀ rest, (walk.line line 0 none (front ++ rest)).1 =
    settled ++ (walk.line line (columnAfter front) pending rest).1

/-- What a walk has made when the line ends. -/
theorem Arrives.line_eq {settled : List Mapping} {pending : Option Mapping}
    (h : walk.Arrives line front settled pending) :
    (walk.line line 0 none front).1 = settled ++ pending.toList := by
  have hline := h.goes_on []
  rwa [List.append_nil, Walk.line] at hline

/-- One more segment takes the walk one step further. -/
theorem Arrives.concat {settled : List Mapping} {pending : Option Mapping} {last : Segment}
    (h : walk.Arrives line front settled pending)
    (hfits : columnAfter (front ++ [last]) < Word.size) :
    ∃ emitted after,
      walk.Takes line (columnAfter (front ++ [last])) pending last emitted after ∧
        walk.Arrives line (front ++ [last]) (settled ++ emitted) after := by
  have hreached := reached?_columnAfter last h.tracks.fits
  rw [if_pos hfits] at hreached
  obtain ⟨emitted, after, htakes, hline⟩ := @line_cons walk line _ _ last pending hreached
  refine ⟨emitted, after, htakes, h.tracks.takes hfits htakes, ?_⟩
  intro rest
  rw [List.append_assoc, List.singleton_append, h.goes_on, hline, List.append_assoc]

/-- A front without overflow is walked to its end. -/
theorem exists_arrives (walk : Walk) (line : Nat) (hfits : columnAfter front < Word.size) :
    ∃ settled pending, walk.Arrives line front settled pending := by
  induction front using List.reverseRecOn with
  | nil => exact ⟨[], none, walk.tracks_nil line, fun _ => rfl⟩
  | append_singleton front last ih =>
      obtain ⟨settled, pending, harrives⟩ := ih ((columnAfter_le_concat front last).trans_lt hfits)
      obtain ⟨emitted, after, _, hconcat⟩ := harrives.concat hfits
      exact ⟨settled ++ emitted, after, hconcat⟩

/-- Where the column overflows, the line is over. -/
theorem line_append_of_overflow (walk : Walk) (line : Nat) {last : Segment} (rest : List Segment)
    (hover : Word.size ≤ columnAfter (front ++ [last])) :
    (walk.line line 0 none (front ++ last :: rest)).1 = (walk.line line 0 none front).1 := by
  induction front using List.reverseRecOn generalizing last rest with
  | nil =>
      have hreached := reached?_columnAfter last (show columnAfter [] < Word.size by decide)
      rw [if_neg (Nat.not_lt.2 hover)] at hreached
      exact line_overflow none rest hreached
  | append_singleton front before ih =>
      rcases Nat.lt_or_ge (columnAfter (front ++ [before])) Word.size with hfits | hearlier
      · obtain ⟨settled, pending, harrives⟩ := walk.exists_arrives line hfits
        have hreached := reached?_columnAfter last hfits
        rw [if_neg (Nat.not_lt.2 hover)] at hreached
        rw [harrives.goes_on, line_overflow pending rest hreached, harrives.line_eq]
      · -- it was over before the last segment of the front
        rw [List.append_assoc, List.singleton_append, ih _ hearlier, ih _ hearlier]

/-! ### Flushed ranges -/

/-- An advance behind the front of a line makes the walk flush a range: it adds the end of the range to what
the walk has made of the front, and the last of that is the start. -/
def Flushes (walk : Walk) (line : Nat) (front : List Segment) (delta : Nat)
    (start finish : Mapping) : Prop :=
  ∃ settled, (walk.line line 0 none front).1 = settled ++ [start] ∧
    (walk.line line 0 none (front ++ [.advance delta])).1 = settled ++ [start, finish]

theorem columnAfter_concat_advance (front : List Segment) (delta : Nat) :
    columnAfter (front ++ [.advance delta]) = columnAfter front + delta := by
  rw [columnAfter_append, columnAfter_singleton]
  rfl

/-- A long advance ends the range of the pending mapping. -/
theorem Arrives.close {settled : List Mapping} {current : Mapping} {delta : Nat}
    (h : walk.Arrives line front settled (some current))
    (hfits : columnAfter front + delta < Word.size)
    (hcloses : walk.Closes line (columnAfter front + delta) delta (.advance delta)) :
    walk.Arrives line (front ++ [.advance delta])
      (settled ++ [current, walk.rangeEnd current (columnAfter front + delta) delta]) none := by
  rw [← columnAfter_concat_advance] at *
  obtain ⟨emitted, after, htakes, hconcat⟩ := h.concat hfits
  cases htakes with
  | pass _ hclose => cases hclose delta hcloses
  | close hclose =>
      obtain ⟨⟨⟩, _⟩ := hclose
      exact hconcat
  | hold hcounts | yield hcounts | stay hcounts => exact hcounts.elim

/-- **An advance flushes a range** exactly if a mapping is pending, the step is long and does not overflow,
and the column that it reaches is not inside a protected range.  The end is one step behind the column of
the walk. -/
theorem flushes_iff {delta : Nat} {start finish : Mapping} :
    walk.Flushes line front delta start finish ↔
      ∃ settled, walk.Arrives line front settled (some start) ∧
        columnAfter front + delta < Word.size ∧
        walk.Closes line (columnAfter front + delta) delta (.advance delta) ∧
        finish = walk.rangeEnd start (columnAfter front + delta) delta := by
  constructor
  · rintro ⟨made, hbefore, hafter⟩
    -- the walk makes something new of the advance, so the advance is in reach
    have hnew : (walk.line line 0 none (front ++ [.advance delta])).1 ≠
        (walk.line line 0 none front).1 := by
      rw [hbefore, hafter]
      simp
    have hfits : columnAfter (front ++ [.advance delta]) < Word.size := by
      by_contra hover
      exact hnew (walk.line_append_of_overflow line [] (Nat.le_of_not_lt hover))
    obtain ⟨settled, pending, harrives⟩ :=
      walk.exists_arrives line ((columnAfter_le_concat front _).trans_lt hfits)
    obtain ⟨emitted, after, htakes, hconcat⟩ := harrives.concat hfits
    rw [hconcat.line_eq, harrives.line_eq] at hnew
    rw [harrives.line_eq] at hbefore
    rw [hconcat.line_eq] at hafter
    cases htakes with
    | pass => exact absurd (by rw [List.append_nil]) hnew
    | close hclose =>
        obtain ⟨⟨⟩, hlong, hprotected⟩ := hclose
        obtain ⟨rfl, hstart⟩ := List.append_inj' hbefore rfl
        obtain rfl := List.head_eq_of_cons_eq hstart
        rw [columnAfter_concat_advance] at hfits hprotected hafter
        refine ⟨settled, harrives, hfits, ⟨rfl, hlong, hprotected⟩, ?_⟩
        simpa using hafter.symm
    | hold hcounts | yield hcounts | stay hcounts => exact hcounts.elim
  · rintro ⟨settled, harrives, hfits, hcloses, rfl⟩
    exact ⟨settled, harrives.line_eq, (harrives.close hfits hcloses).line_eq.trans (List.append_nil _)⟩

/-! ### Ranges in a map -/

/-- What a walk makes of one line stands together in what it makes of many. -/
theorem line_infix_linesFrom (walk : Walk) (lines : List (List Segment)) (first offset : Nat) :
    (walk.line (first + offset) 0 none (walk.kept (first + offset) (lines[offset]?.getD []))).1 <:+:
      (walk.linesFrom first lines).1 := by
  induction lines generalizing first offset with
  | nil => simp [kept, Walk.line]
  | cons segments rest ih =>
      rw [linesFrom]
      cases offset with
      | zero => exact (List.prefix_append _ _).isInfix
      | succ offset =>
          have hsum : first + (offset + 1) = first + 1 + offset := by omega
          rw [hsum, List.getElem?_cons_succ]
          exact (ih (first + 1) offset).trans (List.suffix_append _ _).isInfix

theorem line_infix_coalesce (walk : Walk) (line : Nat) :
    (walk.line line 0 none (walk.kept line (walk.map.segments line))).1 <:+: walk.coalesce.1 := by
  have h := walk.line_infix_linesFrom walk.map.lines 0 line
  rwa [Nat.zero_add] at h

/-- Nothing comes between the start of a flushed range and its end. -/
theorem Flushes.infix_coalesce {delta : Nat} {start finish : Mapping} {rest : List Segment}
    (h : walk.Flushes line front delta start finish)
    (hkept : walk.kept line (walk.map.segments line) = front ++ .advance delta :: rest) :
    [start, finish] <:+: walk.coalesce.1 := by
  refine List.IsInfix.trans ?_ (walk.line_infix_coalesce line)
  obtain ⟨settled, harrives, hfits, hcloses, rfl⟩ := flushes_iff.1 h
  rw [hkept, List.append_cons, (harrives.close hfits hcloses).goes_on rest]
  exact (List.suffix_append _ _).isInfix.trans (List.prefix_append _ _).isInfix

/-! ### The two sides of a range -/

/-- The segments behind an index move the column from there to the end. -/
theorem Reaches.add_columnAfter_drop {index column : Nat} {segment : Segment}
    (h : Reaches front index segment column) :
    column + columnAfter (front.drop (index + 1)) = columnAfter front := by
  rw [← h.column_eq, ← columnAfter_append, List.take_append_drop]

theorem columnAfter_eq_zero_iff (segments : List Segment) :
    columnAfter segments = 0 ↔ ∀ segment ∈ segments, segment.delta?.getD 0 = 0 := by
  induction segments with
  | nil => simp [columnAfter]
  | cons segment rest ih =>
      rw [← List.singleton_append, columnAfter_append, columnAfter_singleton, Nat.add_eq_zero_iff, ih,
        List.singleton_append, List.forall_mem_cons]

/-- **A range is aligned exactly if nothing moved the column between its start and its advance.**  Start and
end of a flushed range stand next to each other.  On the host side the end is one step behind the start, but
not beyond the end of the line.  On the generated side it is further away by what the segments behind the
last eligible one have moved the column; so it is one step behind the start exactly if none of them has, and
only then are both sides equally wide where the host line is long enough. -/
theorem flush_aligned_iff (walk : Walk) (line delta : Nat) (front rest : List Segment)
    (start finish : Mapping)
    (hkept : walk.kept line (walk.map.segments line) = front ++ .advance delta :: rest)
    (hflush : walk.Flushes line front delta start finish) :
    [start, finish] <:+: walk.coalesce.1 ∧
    ∃ length index segment,
      walk.host.lineLength start.target.line = some length ∧
      finish.target =
        { start.target with column := min (start.target.column + delta) length } ∧
      walk.Eligible line front index segment start.column ∧
      (∀ later other column, index < later → ¬ walk.Eligible line front later other column) ∧
      finish.line = start.line ∧
      finish.column = start.column + columnAfter (front.drop (index + 1)) + delta ∧
      (finish.column = start.column + delta ↔
        ∀ other ∈ front.drop (index + 1), other.delta?.getD 0 = 0) ∧
      (start.target.column + delta ≤ length →
        (finish.column - start.column = finish.target.column - start.target.column ↔
          finish.column = start.column + delta)) := by
  have hrange := hflush.infix_coalesce hkept
  obtain ⟨settled, harrives, hfits, hcloses, rfl⟩ := flushes_iff.1 hflush
  obtain ⟨_, ⟨index, segment, _, heligible, hlater⟩, _⟩ := harrives.tracks.held
  have hstart : start ∈ walk.coalesce.1 := hrange.subset (List.mem_cons_self ..)
  obtain ⟨_, length, hlength, _⟩ := contains_of_mem_coalesce hstart
  have hidle := heligible.reaches.add_columnAfter_drop
  have hzero := columnAfter_eq_zero_iff (front.drop (index + 1))
  refine ⟨hrange, length, index, segment, hlength, ?_, heligible, ?_, rfl, ?_, ?_, ?_⟩
  · simp only [rangeEnd, hlength, Option.getD_some]
  · intro later other column hlt hother
    exact (hlater later other column hlt hother.reaches.lt_length hother.reaches).1 hother.counts
  · simp only [rangeEnd]
    omega
  · rw [← hzero]
    simp only [rangeEnd]
    omega
  · intro hle
    simp only [rangeEnd, hlength, Option.getD_some, Nat.min_eq_left hle]
    omega

/-- A segment that cannot be read does not move the column, and the range is aligned. -/
theorem flush_aligned_iff_unreadable :
    ∃ (walk : Walk) (front rest : List Segment) (start finish : Mapping),
      walk = ⟨.ofLines [[[0, 0, 0, 1], [-1], [3], [1, 0, 0, 5]]] none, { status := .completed },
        ⟨"App.svelte", "abcdefgh\n"⟩, ⟨0, 0, 0⟩, true⟩ ∧
      front = [.mapped 0 0 0 1 none, .malformed none (.negativeDelta (-1))] ∧
      walk.kept 0 (walk.map.segments 0) = front ++ .advance 3 :: rest ∧
      walk.Flushes 0 front 3 start finish ∧
      [start, finish] <:+: walk.coalesce.1 ∧
      finish.column = start.column + 3 ∧ finish.target.column = start.target.column + 3 := by
  let walk : Walk := ⟨.ofLines [[[0, 0, 0, 1], [-1], [3], [1, 0, 0, 5]]] none,
    { status := .completed }, ⟨"App.svelte", "abcdefgh\n"⟩, ⟨0, 0, 0⟩, true⟩
  have hkept : walk.kept 0 (walk.map.segments 0) =
      [.mapped 0 0 0 1 none, .malformed none (.negativeDelta (-1))] ++
        .advance 3 :: [.mapped 1 0 0 5 none] := by decide +kernel
  have hflush : walk.Flushes 0 [.mapped 0 0 0 1 none, .malformed none (.negativeDelta (-1))] 3
      ⟨0, 0, ⟨0, 1, none⟩, .coalesced⟩ ⟨0, 3, ⟨0, 4, none⟩, .coalesced⟩ :=
    ⟨[], by decide +kernel, by decide +kernel⟩
  obtain ⟨hrange, length, index, segment, _, _, _, _, _, _, haligned, _⟩ :=
    flush_aligned_iff walk 0 3 _ _ _ _ hkept hflush
  refine ⟨walk, _, _, _, _, rfl, rfl, hkept, hflush, hrange, haligned.2 ?_, rfl⟩
  intro other hother
  obtain rfl := List.mem_singleton.1 (List.mem_of_mem_drop hother)
  rfl

/-- A short advance moves the column before the long one comes: the range is four columns wide in the
generated code and three in the host. -/
theorem flush_misaligned_short_advance :
    ∃ (walk : Walk) (front : List Segment) (start finish : Mapping),
      walk = ⟨.ofLines [[[0, 0, 0, 0], [1], [3]]] none, { status := .completed },
        ⟨"App.svelte", "abcdefgh\n"⟩, ⟨0, 0, 0⟩, true⟩ ∧
      walk.kept 0 (walk.map.segments 0) = front ++ [.advance 3] ∧
      walk.Flushes 0 front 3 start finish ∧ walk.coalesce.1 = [start, finish] ∧
      ¬ (finish.column = start.column + 3) ∧
      finish.column - start.column = 4 ∧ finish.target.column - start.target.column = 3 :=
  ⟨_, [.mapped 0 0 0 0 none, .advance 1], ⟨0, 0, ⟨0, 0, none⟩, .coalesced⟩,
    ⟨0, 4, ⟨0, 3, none⟩, .coalesced⟩, rfl, by decide +kernel,
    ⟨[], by decide +kernel, by decide +kernel⟩, by decide +kernel, by decide, rfl, rfl⟩

end Inlay.Walk
