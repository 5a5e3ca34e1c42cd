/-
**Protection in canonical form.**

`Inlay/Proofs/Union.lean` shows that the spans of a line are separated and touch the places that the ranges
touch.  This module shows that nothing else matters: separated spans can be read off the places that they
touch, the first one from the first place up to the first gap, and so on.  So two lists of ranges give the
same protection exactly if they touch the same places of the same lines.  In which order ranges come, how
often, which end of a range comes first and how ranges overlap leaves no trace, and a protection, listed as
ranges, gives itself.

Main definitions:

* `Inlay.ProtectedRange.reversed` — a range with its ends exchanged.

Main results:

* `Inlay.Span.Separated.eq_of_touches` — separated spans are told apart by the places that they touch;
* `Inlay.Protection.ofRanges_eq_iff` — **ranges give the same protection exactly if they touch the same
  places**;
* `Inlay.Protection.ofRanges_perm`, `Inlay.Protection.ofRanges_reversed` — neither the order of ranges nor
  that of their ends matters;
* `Inlay.Protection.touched_ranges_iff` — the ranges that a protection lists touch what it was made from;
* `Inlay.Protection.ofRanges_canonical` — **a protection is a canonical form of its ranges, and what it lists
  gives it back**.
-/
import Inlay.Proofs.Union
import Mathlib.Data.List.Sort

set_option autoImplicit false

namespace Inlay

/-! ### Separated spans -/

namespace Span

theorem touches_start {span : Span} (h : span.start ≤ span.stop) : span.Touches (2 * span.start) :=
  ⟨Nat.le_refl _, Nat.mul_le_mul_left 2 h⟩

namespace Separated

variable {first other span : Span} {rest others spans : List Span} {place : Nat}

theorem of_cons (h : Separated (first :: rest)) : Separated rest :=
  ⟨fun span hspan => h.ordered span (List.mem_cons_of_mem _ hspan), h.apart.of_cons⟩

/-- The spans behind the first one touch nothing before the gap, nor the place in the gap. -/
theorem succ_lt_of_touches (h : Separated (first :: rest)) (hspan : span ∈ rest)
    (htouches : span.Touches place) : 2 * first.stop + 1 < place := by
  have hgap : first.stop < span.start := List.rel_of_pairwise_cons h.apart hspan
  have hlow : 2 * span.start ≤ place := htouches.1
  omega

/-- Nothing is touched before the first span. -/
theorem start_le_of_touches (h : Separated (first :: rest))
    (htouched : ∃ span ∈ first :: rest, span.Touches place) : 2 * first.start ≤ place := by
  obtain ⟨span, hspan, htouches⟩ := htouched
  rcases List.mem_cons.1 hspan with rfl | hspan
  · exact htouches.1
  · have hordered : first.start ≤ first.stop := h.ordered first (by simp)
    have hbehind := h.succ_lt_of_touches hspan htouches
    omega

/-- The first of separated spans starts where the places begin that are touched. -/
theorem start_le_start (h : Separated (first :: rest)) (h' : Separated (other :: others))
    (htouched : ∀ place, (∃ span ∈ other :: others, span.Touches place) →
      ∃ span ∈ first :: rest, span.Touches place) : first.start ≤ other.start := by
  have hstart : ∃ span ∈ first :: rest, span.Touches (2 * other.start) :=
    htouched _ ⟨other, by simp, touches_start (h'.ordered other (by simp))⟩
  have hle := h.start_le_of_touches hstart
  omega

/-- The first of separated spans ends where the first gap is. -/
theorem stop_le_stop (h' : Separated (other :: others)) (hstart : first.start = other.start)
    (htouched : ∀ place, (∃ span ∈ first :: rest, span.Touches place) →
      ∃ span ∈ other :: others, span.Touches place) : first.stop ≤ other.stop := by
  by_contra hlonger
  have hordered : other.start ≤ other.stop := h'.ordered other (by simp)
  -- the longer span touches the place behind the end of the shorter one, which is in a gap
  obtain ⟨span, hspan, htouches⟩ :=
    htouched (2 * other.stop + 1) ⟨first, by simp, by omega, by omega⟩
  rcases List.mem_cons.1 hspan with rfl | hspan
  · have hhigh : 2 * span.stop + 1 ≤ 2 * span.stop := htouches.2
    omega
  · have hbehind := h'.succ_lt_of_touches hspan htouches
    omega

/-- What is touched behind the first span is touched by the others. -/
theorem exists_touches_rest (h : Separated (first :: rest)) (hspan : span ∈ rest)
    (htouches : span.Touches place)
    (htouched : ∃ span ∈ first :: others, span.Touches place) : ∃ span ∈ others, span.Touches place := by
  obtain ⟨found, hfound, hplace⟩ := htouched
  rcases List.mem_cons.1 hfound with rfl | hfound
  · have hbehind := h.succ_lt_of_touches hspan htouches
    have hhigh : place ≤ 2 * found.stop := hplace.2
    omega
  · exact ⟨found, hfound, hplace⟩

/-- **Separated spans are told apart by the places that they touch.** -/
theorem eq_of_touches (h : Separated spans) (h' : Separated others)
    (htouched : ∀ place, (∃ span ∈ spans, span.Touches place) ↔ ∃ span ∈ others, span.Touches place) :
    spans = others := by
  induction spans generalizing others with
  | nil =>
      cases others with
      | nil => rfl
      | cons other others =>
          obtain ⟨_, hnone, _⟩ :=
            (htouched _).2 ⟨other, by simp, touches_start (h'.ordered other (by simp))⟩
          cases hnone
  | cons first rest ih =>
      cases others with
      | nil =>
          obtain ⟨_, hnone, _⟩ :=
            (htouched _).1 ⟨first, by simp, touches_start (h.ordered first (by simp))⟩
          cases hnone
      | cons other others =>
          have hstart : first.start = other.start :=
            Nat.le_antisymm (h.start_le_start h' fun place => (htouched place).2)
              (h'.start_le_start h fun place => (htouched place).1)
          have hstop : first.stop = other.stop :=
            Nat.le_antisymm (h'.stop_le_stop hstart fun place => (htouched place).1)
              (h.stop_le_stop hstart.symm fun place => (htouched place).2)
          obtain rfl : first = other := by
            cases first
            cases other
            simp_all
          rw [ih h.of_cons h'.of_cons]
          intro place
          constructor
          · rintro ⟨span, hspan, htouches⟩
            exact h.exists_touches_rest hspan htouches
              ((htouched place).1 ⟨span, List.mem_cons_of_mem _ hspan, htouches⟩)
          · rintro ⟨span, hspan, htouches⟩
            exact h'.exists_touches_rest hspan htouches
              ((htouched place).2 ⟨span, List.mem_cons_of_mem _ hspan, htouches⟩)

end Separated

end Span

/-! ### The places that ranges touch -/

/-- The range with its ends exchanged. -/
def ProtectedRange.reversed (range : ProtectedRange) : ProtectedRange where
  line := range.line
  start := range.stop
  stop := range.start

@[simp] theorem ProtectedRange.line_reversed (range : ProtectedRange) :
    range.reversed.line = range.line := rfl

@[simp] theorem ProtectedRange.span_reversed (range : ProtectedRange) :
    range.reversed.span = range.span := by
  simp only [span, reversed, Nat.min_comm, Nat.max_comm]

theorem ProtectedRange.ordered_span (range : ProtectedRange) : range.span.start ≤ range.span.stop :=
  Nat.le_trans (Nat.min_le_left _ _) (Nat.le_max_left _ _)

namespace Protection

variable {ranges others : List ProtectedRange} {range : ProtectedRange} {line place : Nat}

/-- A line has ranges exactly if a place of it is touched. -/
theorem exists_touched_iff : (∃ place, Touched ranges line place) ↔ line ∈ linesOf ranges := by
  rw [mem_linesOf]
  constructor
  · rintro ⟨_, range, hrange, hline, _⟩
    exact ⟨range, hrange, hline⟩
  · rintro ⟨range, hrange, hline⟩
    exact ⟨_, range, hrange, hline, Span.touches_start range.ordered_span⟩

/-- The lines of ranges increase. -/
theorem pairwise_linesOf (ranges : List ProtectedRange) : (linesOf ranges).Pairwise (· < ·) :=
  pairwise_lt_eraseReps_mergeSort (by simp) _

/-- **Ranges give the same protection exactly if they touch the same places.** -/
theorem ofRanges_eq_iff :
    ofRanges ranges = ofRanges others ↔
      ∀ line place, Touched ranges line place ↔ Touched others line place := by
  constructor
  · intro heq line place
    rw [← exists_touches_spansOn_iff, ← exists_touches_spansOn_iff, ← spans_ofRanges, ← spans_ofRanges,
      heq]
  · intro htouched
    have hlines : linesOf ranges = linesOf others := by
      refine (pairwise_linesOf ranges).eq_of_mem_iff (pairwise_linesOf others) ?_
      intro line
      simp only [← exists_touched_iff, htouched]
    have hspans : ∀ line, spansOn ranges line = spansOn others line := by
      intro line
      refine (separated_spansOn ranges line).eq_of_touches (separated_spansOn others line) ?_
      intro place
      rw [exists_touches_spansOn_iff, exists_touches_spansOn_iff, htouched]
    simp only [ofRanges, hlines, hspans]

/-- The order in which ranges come does not matter. -/
theorem ofRanges_perm (h : ranges.Perm others) : ofRanges ranges = ofRanges others := by
  rw [ofRanges_eq_iff]
  intro line place
  simp only [Touched, h.mem_iff]

/-- Which end of a range comes first does not matter. -/
theorem ofRanges_reversed (ranges : List ProtectedRange) :
    ofRanges (ranges.map ProtectedRange.reversed) = ofRanges ranges := by
  rw [ofRanges_eq_iff]
  intro line place
  simp [Touched]

/-! ### Listing a protection -/

/-- A protection lists the spans of its lines. -/
theorem mem_ranges_iff :
    range ∈ (ofRanges ranges).ranges ↔ ⟨range.start, range.stop⟩ ∈ spansOn ranges range.line := by
  constructor
  · intro h
    obtain ⟨entry, hentry, hrange⟩ := List.mem_flatMap.1 h
    obtain ⟨line, _, rfl⟩ := List.mem_map.1 hentry
    obtain ⟨span, hspan, rfl⟩ := List.mem_map.1 hrange
    exact hspan
  · intro h
    -- a span is left on a line only by ranges of that line
    have hline : range.line ∈ linesOf ranges := by
      have hordered := (separated_spansOn ranges range.line).ordered _ h
      exact exists_touched_iff.1 ⟨_, exists_touches_spansOn_iff.1 ⟨_, h, Span.touches_start hordered⟩⟩
    exact List.mem_flatMap.2 ⟨_, List.mem_map.2 ⟨range.line, hline, rfl⟩,
      List.mem_map.2 ⟨_, h, rfl⟩⟩

/-- The ends of a range that is listed are in order. -/
theorem span_of_mem_ranges (h : range ∈ (ofRanges ranges).ranges) :
    range.span = ⟨range.start, range.stop⟩ := by
  have hordered : range.start ≤ range.stop :=
    (separated_spansOn ranges range.line).ordered _ (mem_ranges_iff.1 h)
  rw [ProtectedRange.span, Nat.min_eq_left hordered, Nat.max_eq_right hordered]

/-- The ranges that a protection lists touch what it was made from. -/
theorem touched_ranges_iff :
    Touched (ofRanges ranges).ranges line place ↔ Touched ranges line place := by
  refine Iff.trans ?_ exists_touches_spansOn_iff
  constructor
  · rintro ⟨range, hrange, rfl, htouches⟩
    rw [span_of_mem_ranges hrange] at htouches
    exact ⟨_, mem_ranges_iff.1 hrange, htouches⟩
  · rintro ⟨span, hspan, htouches⟩
    have hrange : ⟨line, span.start, span.stop⟩ ∈ (ofRanges ranges).ranges := mem_ranges_iff.2 hspan
    refine ⟨_, hrange, rfl, ?_⟩
    rwa [span_of_mem_ranges hrange]

/-- **A protection is a canonical form of the ranges it is made from.**  It does not depend on the order of
the ranges, nor on the order of the ends of each, and the ranges that it lists give it back.  Two lists of
ranges give the same protection only if they touch the same places of each line. -/
theorem ofRanges_canonical (ranges : List ProtectedRange) :
    (∀ others, others.Perm ranges → ofRanges others = ofRanges ranges) ∧
    ofRanges (ranges.map ProtectedRange.reversed) = ofRanges ranges ∧
    ofRanges (ofRanges ranges).ranges = ofRanges ranges ∧
    ∀ others, ofRanges others = ofRanges ranges ↔
      ∀ line place, Touched others line place ↔ Touched ranges line place := by
  refine ⟨fun others hperm => ofRanges_perm hperm, ofRanges_reversed ranges, ?_,
    fun others => ofRanges_eq_iff⟩
  rw [ofRanges_eq_iff]
  intro line place
  exact touched_ranges_iff

/-- Ranges that overlap, touch, repeat, are empty or reversed, on two lines, in another order. -/
theorem ofRanges_canonical_shuffled :
    ∃ ranges others : List ProtectedRange,
      ranges = [⟨1, 8, 5⟩, ⟨0, 4, 4⟩, ⟨1, 2, 5⟩, ⟨1, 10, 11⟩, ⟨1, 2, 5⟩] ∧
      others = [⟨1, 2, 5⟩, ⟨1, 10, 11⟩, ⟨1, 8, 5⟩, ⟨1, 2, 5⟩, ⟨0, 4, 4⟩] ∧ others.Perm ranges ∧
      ofRanges others = ofRanges ranges ∧
      ofRanges ranges = ⟨[⟨0, [⟨4, 4⟩]⟩, ⟨1, [⟨2, 8⟩, ⟨10, 11⟩]⟩]⟩ := by
  have hperm : [⟨1, 2, 5⟩, ⟨1, 10, 11⟩, ⟨1, 8, 5⟩, ⟨1, 2, 5⟩, ⟨0, 4, 4⟩].Perm
      ([⟨1, 8, 5⟩, ⟨0, 4, 4⟩, ⟨1, 2, 5⟩, ⟨1, 10, 11⟩, ⟨1, 2, 5⟩] : List ProtectedRange) := by
    decide
  refine ⟨_, _, rfl, rfl, hperm, (ofRanges_canonical _).1 _ hperm, ?_⟩
  simp [ofRanges, linesOf, spansOn, ProtectedRange.span, Span.notAfter, Span.join, Span.joinFrom,
    List.mergeSort, List.eraseReps, List.eraseRepsBy, List.eraseRepsBy.loop]

end Protection

end Inlay
