/-
**Eligible segments and range ends.**

What a generated column should be mapped to can be read off the segments of its line, without walking
them.  A segment reaches the column that the readable deltas up to it add up to; it is eligible there if
no overflow came before and if it counts.  Of the eligible segments at a column the best one wins, and
among equals the first.  A long advance ends the range of the mapping that is pending before it.  This
module states this and shows that it depends on nothing that comes later on the line.

Main definitions:

* `Inlay.Target.key` — the lexicographic key of a target: the smaller, the better;
* `Inlay.Walk.Reaches`, `Inlay.Walk.Eligible` — which segments reach a column, and which are eligible;
* `Inlay.Walk.FirstBest` — **the target of the first of the best eligible segments at a column**;
* `Inlay.Walk.Pending`, `Inlay.Walk.EndsRange` — **where a range end falls**;
* `Inlay.Walk.Due` — what a column should be mapped to.

Main results:

* `Inlay.Target.prefers_iff` — the better of two targets is the one with the smaller key;
* `Inlay.Walk.FirstBest.concat_of_lt`, `Inlay.Walk.FirstBest.concat_of_le` — one more eligible segment;
* `Inlay.Walk.Due.append` — what is due at a column stays due while nothing happens there.
-/
import Inlay.Proofs.Walk
import Mathlib.Algebra.Ring.Nat
import Mathlib.Data.Prod.Lex

set_option autoImplicit false

namespace Inlay

/-! ### The key of a target -/

/-- The key by which targets of one generated place are compared: is it on white space, the line, the
column, is it without a name.  The smaller, the better. -/
def Target.key (host : Host) (target : Target) : Bool ×ₗ Nat ×ₗ Nat ×ₗ Bool :=
  toLex (host.isSpaceAt target.line target.column,
    toLex (target.line, toLex (target.column, target.name.isNone)))

/-- **The better of two targets is the one with the smaller key.** -/
theorem Target.prefers_iff {host : Host} {current candidate : Target} :
    current.prefers host candidate = true ↔ candidate.key host < current.key host := by
  unfold prefers key
  simp only [Prod.Lex.toLex_lt_toLex, Bool.lt_iff, Option.isNone_eq_false_iff]
  cases host.isSpaceAt current.line current.column <;>
    cases host.isSpaceAt candidate.line candidate.column <;>
    grind

namespace Walk

variable {walk : Walk} {line index column : Nat} {segment : Segment}
  {segments front more : List Segment}

/-! ### Columns -/

/-- The column after some segments: the sum of the deltas that can be read. -/
def columnAfter (segments : List Segment) : Nat :=
  (segments.filterMap Segment.delta?).sum

theorem columnAfter_append (front more : List Segment) :
    columnAfter (front ++ more) = columnAfter front + columnAfter more := by
  simp [columnAfter]

theorem columnAfter_le_concat (front : List Segment) (last : Segment) :
    columnAfter front ≤ columnAfter (front ++ [last]) := by
  rw [columnAfter_append]
  exact Nat.le_add_right _ _

theorem columnAfter_take_le (segments : List Segment) {i j : Nat} (h : i ≤ j) :
    columnAfter (segments.take i) ≤ columnAfter (segments.take j) := by
  obtain ⟨d, rfl⟩ := Nat.exists_eq_add_of_le h
  rw [List.take_add, columnAfter_append]
  exact Nat.le_add_right _ _

theorem columnAfter_singleton (segment : Segment) :
    columnAfter [segment] = segment.delta?.getD 0 := by
  cases h : segment.delta? <;> simp [columnAfter, h]

/-- The walk reaches the column after the segment, unless that is too large for a word. -/
theorem reached?_columnAfter (segment : Segment) (hfits : columnAfter front < Word.size) :
    reached? (columnAfter front) segment =
      if columnAfter (front ++ [segment]) < Word.size then some (columnAfter (front ++ [segment]))
      else none := by
  rw [columnAfter_append, columnAfter_singleton, reached?]
  cases segment.delta? with
  | none => exact (if_pos hfits).symm
  | some delta => rfl

theorem take_length_succ (front : List Segment) (segment : Segment) (rest : List Segment) :
    (front ++ segment :: rest).take (front.length + 1) = front ++ [segment] := by
  rw [List.append_cons, List.take_left' (by simp)]

/-- The segment with the given index reaches a column, and no overflow came before. -/
structure Reaches (segments : List Segment) (index : Nat) (segment : Segment) (column : Nat) :
    Prop where
  here : segments[index]? = some segment
  column_eq : columnAfter (segments.take (index + 1)) = column
  fits : column < Word.size

theorem Reaches.lt_length (h : Reaches segments index segment column) : index < segments.length :=
  (List.getElem?_eq_some_iff.1 h.here).1

theorem Reaches.le_columnAfter (h : Reaches segments index segment column) :
    column ≤ columnAfter segments := by
  have hle := columnAfter_take_le segments (i := index + 1) (j := segments.length) h.lt_length
  rwa [List.take_length, h.column_eq] at hle

/-- What comes after a front does not change what its segments reach. -/
theorem reaches_append_iff (h : index < front.length) :
    Reaches (front ++ more) index segment column ↔ Reaches front index segment column := by
  have hhere : (front ++ more)[index]? = front[index]? := List.getElem?_append_left h
  have htake : (front ++ more).take (index + 1) = front.take (index + 1) :=
    List.take_append_of_le_length h
  constructor
  · intro hr
    exact ⟨hhere ▸ hr.here, htake ▸ hr.column_eq, hr.fits⟩
  · intro hr
    exact ⟨hhere.trans hr.here, htake.symm ▸ hr.column_eq, hr.fits⟩

/-- The segments behind a front reach no column before its last one. -/
theorem Reaches.columnAfter_le (h : Reaches (front ++ more) index segment column)
    (hle : front.length ≤ index) : columnAfter front ≤ column := by
  have htake := columnAfter_take_le (front ++ more) (i := front.length) (j := index + 1) (by omega)
  rwa [List.take_left, h.column_eq] at htake

/-- The segment right behind a front reaches the column after it. -/
theorem reaches_concat {last : Segment} (hfits : columnAfter (front ++ [last]) < Word.size) :
    Reaches (front ++ [last]) front.length last (columnAfter (front ++ [last])) := by
  refine ⟨List.getElem?_concat_length .., ?_, hfits⟩
  rw [List.take_of_length_le (by simp)]

/-- With one more segment, only that segment reaches something new. -/
theorem Reaches.concat_cases {last : Segment} (h : Reaches (front ++ [last]) index segment column) :
    Reaches front index segment column ∨
      (index = front.length ∧ segment = last ∧ column = columnAfter (front ++ [last])) := by
  have hlt := h.lt_length
  rw [List.length_append, List.length_singleton] at hlt
  rcases Nat.lt_succ_iff_lt_or_eq.1 hlt with hlt | rfl
  · exact Or.inl ((reaches_append_iff hlt).1 h)
  · obtain ⟨hhere, hcolumn, _⟩ := h
    rw [List.getElem?_concat_length] at hhere
    rw [List.take_of_length_le (by simp)] at hcolumn
    exact Or.inr ⟨rfl, (Option.some.inj hhere).symm, hcolumn.symm⟩

/-! ### Eligible segments -/

/-- The segment with the given index is eligible at a column: it reaches it, and it counts. -/
structure Eligible (walk : Walk) (line : Nat) (segments : List Segment) (index : Nat)
    (segment : Segment) (column : Nat) : Prop where
  reaches : Reaches segments index segment column
  counts : walk.Counts line column segment

theorem eligible_append_iff (h : index < front.length) :
    walk.Eligible line (front ++ more) index segment column ↔
      walk.Eligible line front index segment column := by
  constructor
  · intro he
    exact ⟨(reaches_append_iff h).1 he.reaches, he.counts⟩
  · intro he
    exact ⟨(reaches_append_iff h).2 he.reaches, he.counts⟩

theorem eligible_concat {last : Segment} (hfits : columnAfter (front ++ [last]) < Word.size)
    (hcounts : walk.Counts line (columnAfter (front ++ [last])) last) :
    walk.Eligible line (front ++ [last]) front.length last (columnAfter (front ++ [last])) :=
  ⟨reaches_concat hfits, hcounts⟩

/-- An eligible segment of a longer line stands in its front, or is the last one. -/
theorem Eligible.concat_cases {last : Segment}
    (h : walk.Eligible line (front ++ [last]) index segment column) :
    walk.Eligible line front index segment column ∨
      (index = front.length ∧ segment = last ∧ column = columnAfter (front ++ [last]) ∧
        walk.Counts line column last) := by
  obtain ⟨hreaches, hcounts⟩ := h
  rcases hreaches.concat_cases with hold | ⟨hindex, rfl, hcolumn⟩
  · exact Or.inl ⟨hold, hcounts⟩
  · exact Or.inr ⟨hindex, rfl, hcolumn, hcounts⟩

/-- The target of the first of the best eligible segments at a column: no other one has a smaller key,
and none before it has as small a key. -/
def FirstBest (walk : Walk) (line : Nat) (segments : List Segment) (column : Nat)
    (target : Target) : Prop :=
  ∃ index segment, walk.Eligible line segments index segment column ∧
    walk.target? segment = some target ∧
    ∀ i other, walk.Eligible line segments i other column →
      ∃ rival, walk.target? other = some rival ∧ target.key walk.host ≤ rival.key walk.host ∧
        (i < index → target.key walk.host < rival.key walk.host)

/-- Behind the last eligible segment at a column its winner stands. -/
theorem FirstBest.append {target : Target} (h : walk.FirstBest line front column target)
    (hnone : ∀ i other, front.length ≤ i →
      ¬ walk.Eligible line (front ++ more) i other column) :
    walk.FirstBest line (front ++ more) column target := by
  obtain ⟨index, segment, heligible, htarget, hbest⟩ := h
  refine ⟨index, segment, (eligible_append_iff heligible.reaches.lt_length).2 heligible, htarget, ?_⟩
  intro i other hother
  have hi : i < front.length := by
    by_contra hi
    exact hnone i other (Nat.le_of_not_lt hi) hother
  exact hbest i other ((eligible_append_iff hi).1 hother)

/-- A segment that is the only eligible one at its column wins there. -/
theorem firstBest_concat {last : Segment} {target : Target}
    (hfits : columnAfter (front ++ [last]) < Word.size)
    (hcounts : walk.Counts line (columnAfter (front ++ [last])) last)
    (htarget : walk.target? last = some target)
    (hnone : ∀ i other, ¬ walk.Eligible line front i other (columnAfter (front ++ [last]))) :
    walk.FirstBest line (front ++ [last]) (columnAfter (front ++ [last])) target := by
  refine ⟨front.length, last, eligible_concat hfits hcounts, htarget, ?_⟩
  intro i other hother
  rcases hother.concat_cases with hold | ⟨rfl, rfl, _, _⟩
  · exact (hnone i other hold).elim
  · exact ⟨target, htarget, le_refl _, fun hlt => (lt_irrefl _ hlt).elim⟩

/-- A segment with a smaller key than the winner's takes its place. -/
theorem FirstBest.concat_of_lt {last : Segment} {target best : Target}
    (h : walk.FirstBest line front (columnAfter (front ++ [last])) best)
    (hfits : columnAfter (front ++ [last]) < Word.size)
    (hcounts : walk.Counts line (columnAfter (front ++ [last])) last)
    (htarget : walk.target? last = some target)
    (hlt : target.key walk.host < best.key walk.host) :
    walk.FirstBest line (front ++ [last]) (columnAfter (front ++ [last])) target := by
  obtain ⟨_, _, _, _, hbest⟩ := h
  refine ⟨front.length, last, eligible_concat hfits hcounts, htarget, ?_⟩
  intro i other hother
  rcases hother.concat_cases with hold | ⟨rfl, rfl, _, _⟩
  · obtain ⟨rival, hrival, hle, _⟩ := hbest i other hold
    exact ⟨rival, hrival, (hlt.trans_le hle).le, fun _ => hlt.trans_le hle⟩
  · exact ⟨target, htarget, le_refl _, fun hlt => (lt_irrefl _ hlt).elim⟩

/-- A segment with no smaller key than the winner's leaves it in place. -/
theorem FirstBest.concat_of_le {last : Segment} {target best : Target}
    (h : walk.FirstBest line front column best)
    (htarget : walk.target? last = some target)
    (hle : best.key walk.host ≤ target.key walk.host) :
    walk.FirstBest line (front ++ [last]) column best := by
  obtain ⟨index, segment, heligible, hsegment, hbest⟩ := h
  have hindex := heligible.reaches.lt_length
  refine ⟨index, segment, (eligible_append_iff hindex).2 heligible, hsegment, ?_⟩
  intro i other hother
  rcases hother.concat_cases with hold | ⟨rfl, rfl, _, _⟩
  · exact hbest i other hold
  · exact ⟨target, htarget, hle, fun hlt => (lt_asymm hlt hindex).elim⟩

/-! ### Range ends -/

/-- Before the segment with the given index a mapping at the column `start` is pending: the last eligible
segment reached it, and no range was closed since. -/
def Pending (walk : Walk) (line : Nat) (segments : List Segment) (index start : Nat) : Prop :=
  ∃ i segment, i < index ∧ walk.Eligible line segments i segment start ∧
    ∀ k other column, i < k → k < index → Reaches segments k other column →
      ¬ walk.Counts line column other ∧ ∀ delta, ¬ walk.Closes line column delta other

theorem pending_append_iff {start : Nat} (h : index ≤ front.length) :
    walk.Pending line (front ++ more) index start ↔ walk.Pending line front index start := by
  constructor
  · rintro ⟨i, segment, hi, heligible, hquiet⟩
    refine ⟨i, segment, hi, (eligible_append_iff (by omega)).1 heligible, ?_⟩
    intro k other column hik hk hreaches
    exact hquiet k other column hik hk ((reaches_append_iff (by omega)).2 hreaches)
  · rintro ⟨i, segment, hi, heligible, hquiet⟩
    refine ⟨i, segment, hi, (eligible_append_iff (by omega)).2 heligible, ?_⟩
    intro k other column hik hk hreaches
    exact hquiet k other column hik hk ((reaches_append_iff (by omega)).1 hreaches)

/-- Behind a segment that does not count, what was pending is pending unless its range was closed. -/
theorem pending_concat_iff {last : Segment} {start : Nat}
    (hfits : columnAfter (front ++ [last]) < Word.size)
    (hcounts : ¬ walk.Counts line (columnAfter (front ++ [last])) last) :
    walk.Pending line (front ++ [last]) (front ++ [last]).length start ↔
      walk.Pending line front front.length start ∧
        ∀ delta, ¬ walk.Closes line (columnAfter (front ++ [last])) delta last := by
  have hreaches := reaches_concat hfits
  have hlength : (front ++ [last]).length = front.length + 1 := by simp
  constructor
  · rintro ⟨i, segment, hi, heligible, hquiet⟩
    rcases heligible.concat_cases with hold | ⟨rfl, rfl, rfl, hcounts'⟩
    · have hi := hold.reaches.lt_length
      refine ⟨⟨i, segment, hi, hold, ?_⟩, (hquiet _ _ _ hi (by omega) hreaches).2⟩
      intro k other column hik hk hother
      exact hquiet k other column hik (by omega) ((reaches_append_iff hk).2 hother)
    · exact (hcounts hcounts').elim
  · rintro ⟨⟨i, segment, hi, heligible, hquiet⟩, hcloses⟩
    refine ⟨i, segment, by omega, (eligible_append_iff hi).2 heligible, ?_⟩
    intro k other column hik hk hother
    rcases hother.concat_cases with hold | ⟨rfl, rfl, rfl⟩
    · exact hquiet k other column hik hold.lt_length hold
    · exact ⟨hcounts, hcloses⟩

/-- A mapping is pending right behind its segment. -/
theorem pending_concat {last : Segment} (hfits : columnAfter (front ++ [last]) < Word.size)
    (hcounts : walk.Counts line (columnAfter (front ++ [last])) last) :
    walk.Pending line (front ++ [last]) (front ++ [last]).length (columnAfter (front ++ [last])) := by
  refine ⟨front.length, last, by simp, eligible_concat hfits hcounts, ?_⟩
  intro k other column hik hk
  rw [List.length_append, List.length_singleton] at hk
  omega

/-- A range end falls at a column: an advance by `delta` reaches it and closes the range of the mapping
that is pending at the column `start`. -/
def EndsRange (walk : Walk) (line : Nat) (segments : List Segment) (column start delta : Nat) :
    Prop :=
  ∃ index segment, Reaches segments index segment column ∧
    walk.Closes line column delta segment ∧ walk.Pending line segments index start

/-- A range ends behind its start. -/
theorem EndsRange.start_lt {start delta : Nat}
    (h : walk.EndsRange line segments column start delta) : start < column := by
  obtain ⟨index, segment, hreaches, ⟨rfl, hlong, _⟩, i, other, hi, heligible, _⟩ := h
  have hstart : start ≤ columnAfter (segments.take index) := by
    rw [← heligible.reaches.column_eq]
    exact columnAfter_take_le segments hi
  have hcolumn : column = columnAfter (segments.take index) + delta := by
    rw [← hreaches.column_eq, List.take_add_one, hreaches.here, columnAfter_append]
    rw [Option.toList_some, columnAfter_singleton]
    rfl
  omega

/-- Where a range ends that starts at a target: `delta` columns later, but on the same line. -/
def endOf (walk : Walk) (target : Target) (delta : Nat) : Target :=
  { target with column := min (target.column + delta) ((walk.host.lineLength target.line).getD 0) }

/-! ### What a column should be mapped to -/

/-- What a column should be mapped to: to the winner if a segment is eligible there, else to the end of
the range that ends there, else to nothing. -/
inductive Due (walk : Walk) (line : Nat) (segments : List Segment) (column : Nat) :
    Option Target → Prop
  | best {target : Target} (hbest : walk.FirstBest line segments column target) :
      Due walk line segments column (some target)
  | rangeEnd {start delta : Nat} {target : Target}
      (hnone : ∀ i other, ¬ walk.Eligible line segments i other column)
      (hend : walk.EndsRange line segments column start delta)
      (hbest : walk.FirstBest line segments start target) :
      Due walk line segments column (some (walk.endOf target delta))
  | nothing (hnone : ∀ i other, ¬ walk.Eligible line segments i other column)
      (hend : ∀ start delta, ¬ walk.EndsRange line segments column start delta) :
      Due walk line segments column none

/-- Something is due at a column exactly if a segment is eligible or a range end falls there. -/
theorem Due.exists_iff {held : Option Target} (h : walk.Due line segments column held) :
    (∃ target, held = some target) ↔
      (∃ i other, walk.Eligible line segments i other column) ∨
        ∃ start delta, walk.EndsRange line segments column start delta := by
  cases h with
  | best hbest =>
      obtain ⟨i, other, heligible, _⟩ := hbest
      exact iff_of_true ⟨_, rfl⟩ (Or.inl ⟨i, other, heligible⟩)
  | rangeEnd hnone hend hbest => exact iff_of_true ⟨_, rfl⟩ (Or.inr ⟨_, _, hend⟩)
  | nothing hnone hend =>
      refine iff_of_false (by simp) ?_
      rintro (⟨i, other, heligible⟩ | ⟨start, delta, hends⟩)
      · exact hnone i other heligible
      · exact hend start delta hends

/-- Where a segment is eligible, the winner is due. -/
theorem Due.firstBest {target : Target} (h : walk.Due line segments column (some target))
    (heligible : walk.Eligible line segments index segment column) :
    walk.FirstBest line segments column target := by
  cases h with
  | best hbest => exact hbest
  | rangeEnd hnone => exact (hnone index segment heligible).elim

/-- Where no segment is eligible, only the end of a range is due. -/
theorem Due.endsRange {target : Target} (h : walk.Due line segments column (some target))
    (hnone : ∀ i other, ¬ walk.Eligible line segments i other column) :
    ∃ start delta best, walk.EndsRange line segments column start delta ∧
      walk.FirstBest line segments start best ∧ target = walk.endOf best delta := by
  cases h with
  | best hbest =>
      obtain ⟨i, other, heligible, _⟩ := hbest
      exact (hnone i other heligible).elim
  | rangeEnd _ hend hbest => exact ⟨_, _, _, hend, hbest, rfl⟩

/-- The segments behind a front leave a column alone: those that reach it do not count, and none of them
closes the range of a pending mapping. -/
def Quiet (walk : Walk) (line : Nat) (front more : List Segment) (column : Nat) : Prop :=
  ∀ i other, front.length ≤ i → Reaches (front ++ more) i other column →
    ¬ walk.Counts line column other ∧
      ∀ start delta, walk.Closes line column delta other →
        ¬ walk.Pending line (front ++ more) i start

theorem Quiet.eligible_iff (h : walk.Quiet line front more column) :
    walk.Eligible line (front ++ more) index segment column ↔
      walk.Eligible line front index segment column := by
  constructor
  · intro he
    rcases Nat.lt_or_ge index front.length with hlt | hge
    · exact (eligible_append_iff hlt).1 he
    · exact ((h index segment hge he.reaches).1 he.counts).elim
  · intro he
    exact (eligible_append_iff he.reaches.lt_length).2 he

theorem Quiet.endsRange_iff {start delta : Nat} (h : walk.Quiet line front more column) :
    walk.EndsRange line (front ++ more) column start delta ↔
      walk.EndsRange line front column start delta := by
  constructor
  · rintro ⟨i, other, hreaches, hcloses, hpending⟩
    rcases Nat.lt_or_ge i front.length with hlt | hge
    · exact ⟨i, other, (reaches_append_iff hlt).1 hreaches, hcloses,
        (pending_append_iff hlt.le).1 hpending⟩
    · exact ((h i other hge hreaches).2 start delta hcloses hpending).elim
  · rintro ⟨i, other, hreaches, hcloses, hpending⟩
    have hlt := hreaches.lt_length
    exact ⟨i, other, (reaches_append_iff hlt).2 hreaches, hcloses,
      (pending_append_iff hlt.le).2 hpending⟩

/-- The end of a range lies in the front that holds its advance. -/
theorem EndsRange.le_columnAfter {start delta : Nat}
    (h : walk.EndsRange line segments column start delta) : column ≤ columnAfter segments := by
  obtain ⟨_, _, hreaches, _, _⟩ := h
  exact hreaches.le_columnAfter

/-- **What is due at a column stays due** while later segments leave it alone. -/
theorem Due.append {held : Option Target} (h : walk.Due line front column held)
    (hquiet : walk.Quiet line front more column) : walk.Due line (front ++ more) column held := by
  cases h with
  | best hbest =>
      refine Due.best (hbest.append ?_)
      intro i other hi he
      exact (hquiet i other hi he.reaches).1 he.counts
  | rangeEnd hnone hend hbest =>
      refine Due.rangeEnd (fun i other he => hnone i other (hquiet.eligible_iff.1 he))
        (hquiet.endsRange_iff.2 hend) (hbest.append ?_)
      -- the range started before its end, and later segments are not back there
      intro i other hi he
      have hstart := hend.start_lt
      have hcolumn := hend.le_columnAfter
      have hlater := he.reaches.columnAfter_le hi
      omega
  | nothing hnone hend =>
      exact Due.nothing (fun i other he => hnone i other (hquiet.eligible_iff.1 he))
        (fun start delta h => hend start delta (hquiet.endsRange_iff.1 h))

end Walk

end Inlay
