/-
**The union of protected ranges.**

`Inlay/Protection.lean` sorts the ranges of a line and joins those that overlap or touch.  What comes out
stands for the union of the ranges: the joined spans cover the columns that the ranges cover, and between
any two of them there is a gap.  Because of the gaps, two neighbouring columns that are both covered are
covered by one span.  So a column lies inside a span, and not at one of its ends, exactly if the column and
the one before it are covered, whichever ranges cover them.

Main definitions:

* `Inlay.Span.Covers` — whether a column is one of a span, its end excluded;
* `Inlay.Span.Touches` — whether a column or a boundary between columns is one of a span, its ends included;
* `Inlay.Span.Separated` — spans in order, with gaps between them;
* `Inlay.Protection.Covered`, `Inlay.Protection.Touched` — whether ranges cover a column of a line, and
  whether they touch a place of it.

Main results:

* `Inlay.Span.separated_join` — joined spans are separated;
* `Inlay.Span.exists_touches_join_iff` — joining keeps the places that are touched;
* `Inlay.Span.Separated.inside_iff` — what it takes to lie inside one of separated spans;
* `Inlay.Protection.ofRanges_separated_inside_iff` — **the spans of a line are separated, and a column is
  inside one exactly if the ranges cover it and the one before it**.
-/
import Inlay.Proofs.Protection
import Mathlib.Data.List.Pairwise

set_option autoImplicit false

namespace Inlay

namespace Span

/-- Whether a column is one of a span; the end of a span is not. -/
def Covers (span : Span) (column : Nat) : Prop :=
  span.start ≤ column ∧ column < span.stop

instance (span : Span) (column : Nat) : Decidable (span.Covers column) :=
  inferInstanceAs (Decidable (_ ∧ _))

/-- Whether a place is one of a span, its ends included.  The boundary before a column is at twice the
column, and the column itself is the place behind that boundary. -/
def Touches (span : Span) (place : Nat) : Prop :=
  2 * span.start ≤ place ∧ place ≤ 2 * span.stop

theorem covers_iff_touches {span : Span} {column : Nat} :
    span.Covers column ↔ span.Touches (2 * column + 1) := by
  unfold Covers Touches
  omega

theorem Within.touches {inner outer : Span} (h : Within inner outer) {place : Nat}
    (htouches : inner.Touches place) : outer.Touches place := by
  obtain ⟨hstart, hstop⟩ := h
  obtain ⟨hlow, hhigh⟩ := htouches
  exact ⟨by omega, by omega⟩

/-- Spans in order, with a gap between any two of them. -/
structure Separated (spans : List Span) : Prop where
  /-- No span is reversed. -/
  ordered : ∀ span ∈ spans, span.start ≤ span.stop
  /-- Each span ends before those behind it start. -/
  apart : spans.Pairwise fun a b => a.stop < b.start

/-! ### Joined spans are separated -/

/-- Joining starts no span before the first one. -/
theorem start_le_of_mem_joinFrom {current joined : Span} {rest : List Span}
    (hsorted : (current :: rest).Pairwise fun a b => a.start ≤ b.start)
    (h : joined ∈ joinFrom current rest) : current.start ≤ joined.start := by
  fun_induction joinFrom current rest with
  | case1 current =>
      obtain rfl := List.mem_singleton.1 h
      exact Nat.le_refl _
  | case2 current next rest hmeets ih => exact ih (pairwise_start_grown hsorted) h
  | case3 current next rest hapart ih =>
      rcases List.mem_cons.1 h with rfl | h
      · exact Nat.le_refl _
      · have hnext : current.start ≤ next.start := List.rel_of_pairwise_cons hsorted (by simp)
        exact Nat.le_trans hnext (ih hsorted.of_cons h)

theorem separated_joinFrom {current : Span} {rest : List Span}
    (hsorted : (current :: rest).Pairwise fun a b => a.start ≤ b.start)
    (hordered : ∀ span ∈ current :: rest, span.start ≤ span.stop) :
    Separated (joinFrom current rest) := by
  fun_induction joinFrom current rest with
  | case1 current => exact ⟨hordered, List.pairwise_singleton _ _⟩
  | case2 current next rest hmeets ih =>
      refine ih (pairwise_start_grown hsorted) ?_
      intro span hspan
      rcases List.mem_cons.1 hspan with rfl | hspan
      · exact Nat.le_trans (hordered current (by simp)) (Nat.le_max_left _ _)
      · exact hordered span (by simp [hspan])
  | case3 current next rest hapart ih =>
      have hrest := ih hsorted.of_cons fun span hspan => hordered span (by simp [hspan])
      refine ⟨?_, List.Pairwise.cons ?_ hrest.apart⟩
      · intro span hspan
        rcases List.mem_cons.1 hspan with rfl | hspan
        · exact hordered span (by simp)
        · exact hrest.ordered span hspan
      · -- what is joined behind the gap starts no earlier than the span that left the gap
        intro joined hjoined
        exact Nat.lt_of_lt_of_le (Nat.lt_of_not_le hapart)
          (start_le_of_mem_joinFrom hsorted.of_cons hjoined)

/-- Joined spans are separated. -/
theorem separated_join {spans : List Span}
    (hsorted : spans.Pairwise fun a b => a.start ≤ b.start)
    (hordered : ∀ span ∈ spans, span.start ≤ span.stop) : Separated (join spans) := by
  cases spans with
  | nil => exact ⟨by simp [join], List.Pairwise.nil⟩
  | cons first rest => exact separated_joinFrom hsorted hordered

/-! ### Joining keeps the places -/

theorem exists_touches_of_joinFrom {current joined : Span} {rest : List Span} {place : Nat}
    (h : joined ∈ joinFrom current rest) (htouches : joined.Touches place) :
    ∃ span ∈ current :: rest, span.Touches place := by
  fun_induction joinFrom current rest with
  | case1 current => exact ⟨joined, h, htouches⟩
  | case2 current next rest hmeets ih =>
      obtain ⟨span, hspan, hplace⟩ := ih h
      rcases List.mem_cons.1 hspan with rfl | hspan
      · -- a place of the grown span is one of the two that it was made of, since they meet
        have hlow : 2 * current.start ≤ place := hplace.1
        have hhigh : place ≤ 2 * max current.stop next.stop := hplace.2
        rcases Nat.lt_or_ge (2 * current.stop) place with hbehind | hbefore
        · exact ⟨next, by simp, by omega, by omega⟩
        · exact ⟨current, by simp, hlow, hbefore⟩
      · exact ⟨span, by simp [hspan], hplace⟩
  | case3 current next rest hapart ih =>
      rcases List.mem_cons.1 h with rfl | h
      · exact ⟨joined, by simp, htouches⟩
      · obtain ⟨span, hspan, hplace⟩ := ih h
        exact ⟨span, List.mem_cons_of_mem _ hspan, hplace⟩

/-- Joining keeps the places that are touched. -/
theorem exists_touches_join_iff {spans : List Span} {place : Nat}
    (hsorted : spans.Pairwise fun a b => a.start ≤ b.start) :
    (∃ joined ∈ join spans, joined.Touches place) ↔ ∃ span ∈ spans, span.Touches place := by
  constructor
  · rintro ⟨joined, hjoined, htouches⟩
    cases spans with
    | nil => cases hjoined
    | cons first rest => exact exists_touches_of_joinFrom hjoined htouches
  · rintro ⟨span, hspan, htouches⟩
    obtain ⟨joined, hjoined, hwithin⟩ := exists_mem_join hsorted hspan
    exact ⟨joined, hjoined, hwithin.touches htouches⟩

/-! ### Inside separated spans -/

namespace Separated

variable {spans : List Span} (h : Separated spans)
include h

/-- Two of separated spans are the same or have a gap between them. -/
theorem eq_or_gap {a b : Span} (ha : a ∈ spans) (hb : b ∈ spans) :
    a = b ∨ a.stop < b.start ∨ b.stop < a.start := by
  have hforth : spans.Pairwise fun a b => a = b ∨ a.stop < b.start ∨ b.stop < a.start :=
    h.apart.imp fun hgap => Or.inr (Or.inl hgap)
  have hback : spans.Pairwise (flip fun a b => a = b ∨ a.stop < b.start ∨ b.stop < a.start) :=
    h.apart.imp fun hgap => Or.inr (Or.inr hgap)
  have hself : ∀ a ∈ spans, a = a ∨ a.stop < a.start ∨ a.stop < a.start := fun _ _ => Or.inl rfl
  exact hforth.forall_of_forall_of_flip hself hback ha hb

/-- Neighbouring columns are covered by one span. -/
theorem eq_of_covers_succ {a b : Span} {column : Nat} (ha : a ∈ spans) (hb : b ∈ spans)
    (hcovers : a.Covers column) (hnext : b.Covers (column + 1)) : a = b := by
  obtain ⟨hlow, hhigh⟩ := hcovers
  obtain ⟨hlow', hhigh'⟩ := hnext
  rcases h.eq_or_gap ha hb with heq | hgap | hgap
  · exact heq
  · omega
  · omega

/-- A column lies inside one of separated spans exactly if it and the one before it are covered. -/
theorem inside_iff {column : Nat} :
    (∃ span ∈ spans, span.start < column ∧ column < span.stop) ↔
      1 ≤ column ∧ (∃ span ∈ spans, span.Covers (column - 1)) ∧ ∃ span ∈ spans, span.Covers column := by
  constructor
  · rintro ⟨span, hspan, hlow, hhigh⟩
    exact ⟨by omega, ⟨span, hspan, by omega, by omega⟩, ⟨span, hspan, by omega, hhigh⟩⟩
  · rintro ⟨hone, ⟨a, ha, hbefore⟩, ⟨b, hb, hcovers⟩⟩
    obtain ⟨before, rfl⟩ := Nat.exists_eq_add_of_le' hone
    rw [Nat.add_sub_cancel] at hbefore
    obtain rfl := h.eq_of_covers_succ ha hb hbefore hcovers
    exact ⟨a, ha, Nat.lt_succ_of_le hbefore.1, hcovers.2⟩

end Separated

end Span

/-! ### The spans of a line -/

namespace Protection

variable {ranges : List ProtectedRange} {line column : Nat}

/-- Whether ranges cover a column of a line; a range covers the columns from the smaller of its ends up
to the greater one. -/
def Covered (ranges : List ProtectedRange) (line column : Nat) : Prop :=
  ∃ range ∈ ranges, range.line = line ∧
    min range.start range.stop ≤ column ∧ column < max range.start range.stop

instance (ranges : List ProtectedRange) (line column : Nat) : Decidable (Covered ranges line column) :=
  inferInstanceAs (Decidable (∃ range ∈ ranges, _))

/-- Whether ranges touch a place of a line; a range touches the places from the smaller of its ends to the
greater one. -/
def Touched (ranges : List ProtectedRange) (line place : Nat) : Prop :=
  ∃ range ∈ ranges, range.line = line ∧ range.span.Touches place

theorem covered_iff_touched : Covered ranges line column ↔ Touched ranges line (2 * column + 1) := by
  unfold Touched
  simp only [← Span.covers_iff_touches]
  rfl

theorem mem_sortedSpans {span : Span} :
    span ∈ ((ranges.filter (·.line == line)).map ProtectedRange.span).mergeSort Span.notAfter ↔
      ∃ range ∈ ranges, range.line = line ∧ range.span = span := by
  simp [List.mem_mergeSort, and_assoc]

/-- The spans of a line are separated. -/
theorem separated_spansOn (ranges : List ProtectedRange) (line : Nat) :
    Span.Separated (spansOn ranges line) := by
  refine Span.separated_join ?_ ?_
  · exact (Span.pairwise_mergeSort_notAfter _).imp Span.start_le_of_notAfter
  · intro span hspan
    obtain ⟨range, _, _, rfl⟩ := mem_sortedSpans.1 hspan
    exact Nat.le_trans (Nat.min_le_left _ _) (Nat.le_max_left _ _)

/-- The spans of a line touch the places that the ranges touch. -/
theorem exists_touches_spansOn_iff {place : Nat} :
    (∃ span ∈ spansOn ranges line, span.Touches place) ↔ Touched ranges line place := by
  have hsorted := (Span.pairwise_mergeSort_notAfter ((ranges.filter (·.line == line)).map
    ProtectedRange.span)).imp Span.start_le_of_notAfter
  rw [spansOn, Span.exists_touches_join_iff hsorted]
  constructor
  · rintro ⟨span, hspan, htouches⟩
    obtain ⟨range, hrange, hline, rfl⟩ := mem_sortedSpans.1 hspan
    exact ⟨range, hrange, hline, htouches⟩
  · rintro ⟨range, hrange, hline, htouches⟩
    exact ⟨range.span, mem_sortedSpans.2 ⟨range, hrange, hline, rfl⟩, htouches⟩

/-- The spans of a line cover the columns that the ranges cover. -/
theorem exists_covers_spansOn_iff :
    (∃ span ∈ spansOn ranges line, span.Covers column) ↔ Covered ranges line column := by
  simp only [Span.covers_iff_touches, exists_touches_spansOn_iff, covered_iff_touched]

/-! ### Protected columns -/

/-- **The spans that ranges leave on a line are separated, and a column is protected exactly if the ranges
cover it and the column before it.**  The ranges may come in any order, be reversed, empty or the same. -/
theorem ofRanges_separated_inside_iff (ranges : List ProtectedRange) (line : Nat) :
    ((∀ span ∈ (ofRanges ranges).spans line, span.start ≤ span.stop) ∧
      ((ofRanges ranges).spans line).Pairwise fun a b => a.stop < b.start) ∧
    ∀ column, (ofRanges ranges).containsStrictly line column = true ↔
      1 ≤ column ∧ Covered ranges line (column - 1) ∧ Covered ranges line column := by
  have hseparated := separated_spansOn ranges line
  rw [spans_ofRanges]
  refine ⟨⟨hseparated.ordered, hseparated.apart⟩, ?_⟩
  intro column
  rw [containsStrictly_iff, spans_ofRanges, hseparated.inside_iff, exists_covers_spansOn_iff,
    exists_covers_spansOn_iff]

end Protection

end Inlay
