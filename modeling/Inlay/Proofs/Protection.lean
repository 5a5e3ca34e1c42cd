/-
**What protected ranges protect.**

`Inlay/Protection.lean` sorts the ranges of each line and joins those that overlap or touch.  Joining only
makes ranges longer: every range that was given lies in one of the joined spans of its line, so that its
inside stays protected.

Main results:

* `Inlay.pairwise_eraseReps` — without repetitions, a sorted list increases;
* `Inlay.pairwise_lt_eraseReps_mergeSort` — so do the elements of any list, in order and without repetitions;
* `Inlay.Span.exists_mem_join` — each span of a sorted list lies in a joined one;
* `Inlay.Protection.spans_ofRanges` — the spans of a line are joined from the ranges of that line;
* `Inlay.Protection.containsStrictly_of_mem` — **the inside of a given range is protected**;
* `Inlay.Protection.containsStrictly_of_mem_ranges` — so is the inside of a range that is listed.
-/
import Inlay.Protection
import Mathlib.Data.List.Basic
import Mathlib.Order.Lattice

set_option autoImplicit false

namespace Inlay

/-! ### Sorted lists without repetitions -/

section Repetitions

variable {α : Type} [BEq α]

theorem eraseRepsBy_loop_eq (a : α) (as acc : List α) :
    List.eraseRepsBy.loop (· == ·) a as acc = acc.reverse ++ (a :: as).eraseReps := by
  induction as generalizing a acc with
  | nil => simp [List.eraseRepsBy.loop, List.eraseReps, List.eraseRepsBy]
  | cons b as ih =>
      rw [List.eraseReps, List.eraseRepsBy, List.eraseRepsBy.loop, List.eraseRepsBy.loop]
      cases a == b <;> simp [ih]

theorem eraseReps_cons_cons (a b : α) (as : List α) :
    (a :: b :: as).eraseReps =
      if a == b then (a :: as).eraseReps else a :: (b :: as).eraseReps := by
  rw [List.eraseReps, List.eraseRepsBy, List.eraseRepsBy.loop]
  cases a == b <;> simp [eraseRepsBy_loop_eq]

variable [LawfulBEq α]

/-- Leaving out repetitions leaves out no element. -/
theorem mem_eraseReps {x : α} {xs : List α} : x ∈ xs.eraseReps ↔ x ∈ xs := by
  cases xs with
  | nil => simp [List.eraseReps, List.eraseRepsBy]
  | cons a as =>
      induction as generalizing a with
      | nil => simp [List.eraseReps, List.eraseRepsBy, List.eraseRepsBy.loop]
      | cons b as ih =>
          rw [eraseReps_cons_cons]
          split
          · next heq =>
              obtain rfl := eq_of_beq heq
              simp [ih]
          · simp [ih]

/-- Without repetitions, no two elements of a sorted list are the same. -/
theorem pairwise_eraseReps {r : α → α → Prop} (hantisymm : ∀ a b, r a b → r b a → a = b)
    {xs : List α} (hsorted : xs.Pairwise r) : xs.eraseReps.Pairwise fun a b => r a b ∧ a ≠ b := by
  cases xs with
  | nil => exact List.Pairwise.nil
  | cons a as =>
      induction as generalizing a with
      | nil => exact List.pairwise_singleton _ _
      | cons b as ih =>
          have hab : r a b := List.rel_of_pairwise_cons hsorted (by simp)
          rw [eraseReps_cons_cons]
          split
          · refine ih a (List.Pairwise.cons ?_ hsorted.of_cons.of_cons)
            intro c hc
            exact List.rel_of_pairwise_cons hsorted (by simp [hc])
          · next hne =>
              refine List.Pairwise.cons ?_ (ih b hsorted.of_cons)
              intro c hc
              refine ⟨List.rel_of_pairwise_cons hsorted (mem_eraseReps.1 hc), ?_⟩
              -- an element behind `b` that is `a` again would make `b` the same as `a`
              rintro rfl
              rcases List.mem_cons.1 (mem_eraseReps.1 hc) with rfl | hc
              · simp at hne
              · have hba : r b a := List.rel_of_pairwise_cons hsorted.of_cons hc
                simp [hantisymm a b hab hba] at hne

end Repetitions

/-- The elements of a list in order, without repetitions, increase. -/
theorem pairwise_lt_eraseReps_mergeSort {α : Type} [BEq α] [LawfulBEq α] [LinearOrder α]
    {le : α → α → Bool} (hle : ∀ a b, le a b = true ↔ a ≤ b) (xs : List α) :
    (xs.mergeSort le).eraseReps.Pairwise (· < ·) := by
  have hsorted : (xs.mergeSort le).Pairwise (· ≤ ·) := by
    refine (List.pairwise_mergeSort ?_ ?_ xs).imp fun h => (hle _ _).1 h
    · intro a b c hab hbc
      exact (hle a c).2 (le_trans ((hle a b).1 hab) ((hle b c).1 hbc))
    · intro a b
      rw [Bool.or_eq_true, hle, hle]
      exact le_total a b
  exact (pairwise_eraseReps (fun _ _ => le_antisymm) hsorted).imp fun h => lt_of_le_of_ne h.1 h.2

/-! ### Joined spans -/

namespace Span

/-- Whether a span lies in another one. -/
def Within (inner outer : Span) : Prop :=
  outer.start ≤ inner.start ∧ inner.stop ≤ outer.stop

theorem Within.refl (span : Span) : Within span span :=
  ⟨Nat.le_refl _, Nat.le_refl _⟩

theorem Within.trans {a b c : Span} (hab : Within a b) (hbc : Within b c) : Within a c :=
  ⟨Nat.le_trans hbc.1 hab.1, Nat.le_trans hab.2 hbc.2⟩

theorem notAfter_iff {a b : Span} :
    notAfter a b = true ↔ a.start < b.start ∨ (a.start = b.start ∧ a.stop ≤ b.stop) := by
  simp [notAfter]

theorem start_le_of_notAfter {a b : Span} (h : notAfter a b = true) : a.start ≤ b.start := by
  rw [notAfter_iff] at h
  omega

theorem notAfter_trans (a b c : Span) (hab : notAfter a b = true) (hbc : notAfter b c = true) :
    notAfter a c = true := by
  rw [notAfter_iff] at *
  omega

theorem notAfter_total (a b : Span) : (notAfter a b || notAfter b a) = true := by
  rw [Bool.or_eq_true, notAfter_iff, notAfter_iff]
  omega

theorem pairwise_mergeSort_notAfter (spans : List Span) :
    (spans.mergeSort notAfter).Pairwise (notAfter · ·) :=
  List.pairwise_mergeSort notAfter_trans notAfter_total spans

/-- A span that has grown to the right still starts before the others. -/
theorem pairwise_start_grown {current next : Span} {rest : List Span}
    (hsorted : (current :: next :: rest).Pairwise fun a b => a.start ≤ b.start) :
    ({ start := current.start, stop := max current.stop next.stop } :: rest).Pairwise
      fun a b : Span => a.start ≤ b.start :=
  List.Pairwise.cons (fun _ hother => List.rel_of_pairwise_cons hsorted (by simp [hother]))
    hsorted.of_cons.of_cons

theorem exists_mem_joinFrom {current span : Span} {rest : List Span}
    (hsorted : (current :: rest).Pairwise fun a b => a.start ≤ b.start)
    (h : span ∈ current :: rest) : ∃ joined ∈ joinFrom current rest, Within span joined := by
  fun_induction joinFrom current rest generalizing span with
  | case1 current =>
      obtain rfl := List.mem_singleton.1 h
      exact ⟨span, List.mem_singleton_self _, Within.refl span⟩
  | case2 current next rest hmeets ih =>
      -- both spans lie in the one that takes their place
      have hnext : current.start ≤ next.start := List.rel_of_pairwise_cons hsorted (by simp)
      have hjoined : ∃ other ∈ ({ start := current.start, stop := max current.stop next.stop } :
          Span) :: rest, Within span other := by
        rcases List.mem_cons.1 h with rfl | h
        · exact ⟨_, List.mem_cons_self .., Nat.le_refl _, Nat.le_max_left _ _⟩
        · rcases List.mem_cons.1 h with rfl | h
          · exact ⟨_, List.mem_cons_self .., hnext, Nat.le_max_right _ _⟩
          · exact ⟨span, List.mem_cons_of_mem _ h, Within.refl span⟩
      obtain ⟨other, hother, hwithin⟩ := hjoined
      obtain ⟨joined, hmem, houter⟩ := ih (pairwise_start_grown hsorted) hother
      exact ⟨joined, hmem, hwithin.trans houter⟩
  | case3 current next rest hapart ih =>
      rcases List.mem_cons.1 h with rfl | h
      · exact ⟨span, List.mem_cons_self .., Within.refl span⟩
      · obtain ⟨joined, hmem, hwithin⟩ := ih hsorted.of_cons h
        exact ⟨joined, List.mem_cons_of_mem _ hmem, hwithin⟩

/-- Each span of a sorted list lies in a joined one. -/
theorem exists_mem_join {spans : List Span} {span : Span}
    (hsorted : spans.Pairwise fun a b => a.start ≤ b.start) (h : span ∈ spans) :
    ∃ joined ∈ join spans, Within span joined := by
  cases spans with
  | nil => cases h
  | cons first rest => exact exists_mem_joinFrom hsorted h

end Span

/-! ### The spans of a line -/

namespace Protection

variable {ranges : List ProtectedRange} {range : ProtectedRange} {line column : Nat}

/-- The columns of a range lie in a joined span of its line. -/
theorem exists_mem_spansOn (h : range ∈ ranges) :
    ∃ joined ∈ spansOn ranges range.line, Span.Within range.span joined := by
  refine Span.exists_mem_join ?_ ?_
  · exact (Span.pairwise_mergeSort_notAfter _).imp Span.start_le_of_notAfter
  · rw [List.mem_mergeSort]
    exact List.mem_map.2 ⟨range, List.mem_filter.2 ⟨h, beq_self_eq_true _⟩, rfl⟩

theorem mem_linesOf : line ∈ linesOf ranges ↔ ∃ range ∈ ranges, range.line = line := by
  rw [linesOf, mem_eraseReps, List.mem_mergeSort, List.mem_map]

/-- The spans of a line are joined from the ranges of that line. -/
theorem spans_ofRanges (ranges : List ProtectedRange) (line : Nat) :
    (ofRanges ranges).spans line = spansOn ranges line := by
  unfold spans ofRanges
  rw [List.find?_map]
  cases hfind : (linesOf ranges).find? ((fun entry : ProtectedLine => entry.line == line) ∘
      fun line => { line, spans := spansOn ranges line }) with
  | some found =>
      have hline : found = line := by simpa using List.find?_some hfind
      simp [hline]
  | none =>
      -- a line that is not listed has no ranges
      have hnone : ranges.filter (·.line == line) = [] := by
        rw [List.filter_eq_nil_iff]
        intro range hrange hline
        have := List.find?_eq_none.1 hfind range.line (mem_linesOf.2 ⟨range, hrange, rfl⟩)
        exact this hline
      simp [spansOn, hnone, Span.join]

theorem containsStrictly_iff {protection : Protection} :
    protection.containsStrictly line column = true ↔
      ∃ span ∈ protection.spans line, span.start < column ∧ column < span.stop := by
  simp [containsStrictly]

/-- **The inside of a given range is protected.** -/
theorem containsStrictly_of_mem (h : range ∈ ranges) (hlow : range.start < column)
    (hhigh : column < range.stop) : (ofRanges ranges).containsStrictly range.line column = true := by
  obtain ⟨joined, hjoined, hstart, hstop⟩ := exists_mem_spansOn h
  rw [containsStrictly_iff, spans_ofRanges]
  refine ⟨joined, hjoined, ?_, ?_⟩
  · exact Nat.lt_of_le_of_lt (Nat.le_trans hstart (Nat.min_le_left _ _)) hlow
  · exact Nat.lt_of_lt_of_le hhigh (Nat.le_trans (Nat.le_max_right _ _) hstop)

/-- The inside of a range that is listed is protected. -/
theorem containsStrictly_of_mem_ranges (h : range ∈ (ofRanges ranges).ranges)
    (hlow : range.start < column) (hhigh : column < range.stop) :
    (ofRanges ranges).containsStrictly range.line column = true := by
  obtain ⟨entry, hentry, hrange⟩ := List.mem_flatMap.1 h
  obtain ⟨line, _, rfl⟩ := List.mem_map.1 hentry
  obtain ⟨span, hspan, rfl⟩ := List.mem_map.1 hrange
  rw [containsStrictly_iff, spans_ofRanges]
  exact ⟨span, hspan, hlow, hhigh⟩

end Protection

end Inlay
