/-
**Integer arrays, read and written again.**

`Inlay/Native/Segment.lean` reads integer arrays of any length and sign into segments, and a map can give
arrays back.  An array that means something comes back as it was.  Of any other only the column step is left,
if it can be read.  What comes back is read without any further loss, so doing it twice is doing it once.

Main definitions:

* `Inlay.Segment.WellFormed` — arrays that mean something;
* `Inlay.Segment.Reads` — which segment an array is read as;
* `Inlay.Segment.Reproduced` — what is left of an array.

Main results:

* `Inlay.Segment.reads_ofFields` — what reading an array can give;
* `Inlay.Segment.Reads.reproduced`, `Inlay.Segment.Reads.again` — one array, written again and read again;
* `Inlay.NativeMap.rawLines_reproduced` — **a map gives back the arrays that mean something**, and steps in
  the place of the others.
-/
import Inlay.Native.Map
import Mathlib.Data.List.Forall2

set_option autoImplicit false

namespace Inlay

namespace Segment

variable {nameCount : Nat}

/-- Arrays that mean something: a step, a step with a position, or these with a name of the table. -/
structure WellFormed (nameCount : Nat) (fields : List Int) : Prop where
  arity : fields.length = 1 ∨ fields.length = 4 ∨ fields.length = 5
  nonneg : ∀ field ∈ fields, 0 ≤ field
  name_lt : ∀ name : Int, fields[4]? = some name → name < nameCount

/-- What is left of an array: all of it, its step, or nothing. -/
inductive Reproduced (nameCount : Nat) : List Int → List Int → Prop
  | whole {fields : List Int} : WellFormed nameCount fields → Reproduced nameCount fields fields
  | step {first : Int} {rest : List Int} :
      ¬ WellFormed nameCount (first :: rest) → 0 ≤ first →
      Reproduced nameCount (first :: rest) [first]
  | negative {first : Int} {rest : List Int} : first < 0 → Reproduced nameCount (first :: rest) []
  | empty : Reproduced nameCount [] []

/-- Which segment an array is read as. -/
inductive Reads (nameCount : Nat) : List Int → Segment → Prop
  | advance (delta : Nat) : Reads nameCount [(delta : Int)] (.advance delta)
  | mapped (delta source line column : Nat) :
      Reads nameCount [(delta : Int), source, line, column] (.mapped delta source line column none)
  | named (delta source line column name : Nat) : name < nameCount →
      Reads nameCount [(delta : Int), source, line, column, name]
        (.mapped delta source line column (some name))
  | step (delta : Nat) (rest : List Int) (fault : SegmentFault) :
      ¬ WellFormed nameCount (delta :: rest) →
      Reads nameCount (delta :: rest) (.malformed (some delta) fault)
  | negative (first : Int) (rest : List Int) (fault : SegmentFault) : first < 0 →
      Reads nameCount (first :: rest) (.malformed none fault)
  | empty (fault : SegmentFault) : Reads nameCount [] (.malformed none fault)

/-! ### One array -/

/-- Fields are natural numbers exactly if none is negative. -/
theorem naturals_eq_some_iff {fields : List Int} {numbers : List Nat} :
    naturals fields = some numbers ↔ fields = numbers.map Int.ofNat := by
  induction fields generalizing numbers with
  | nil => cases numbers <;> simp [naturals]
  | cons field fields ih =>
      rw [naturals]
      split
      · next hfield =>
          rw [Option.map_eq_some_iff]
          constructor
          · rintro ⟨rest, hrest, rfl⟩
            rw [List.map_cons, ← ih.1 hrest, Int.ofNat_eq_natCast, Int.toNat_of_nonneg hfield]
          · intro h
            cases numbers with
            | nil => cases h
            | cons number rest =>
                obtain ⟨rfl, htail⟩ := List.cons.inj h
                exact ⟨rest, ih.2 htail, rfl⟩
      · next hfield =>
          constructor
          · intro h
            cases h
          · intro h
            cases numbers with
            | nil => cases h
            | cons number rest =>
                obtain ⟨rfl, -⟩ := List.cons.inj h
                exact absurd (Int.natCast_nonneg number) hfield

theorem exists_negative_of_naturals {fields : List Int} (h : naturals fields = none) :
    ∃ field ∈ fields, field < 0 := by
  induction fields with
  | nil => cases h
  | cons field fields ih =>
      rw [naturals] at h
      split at h
      · obtain ⟨negative, hmem, hlt⟩ := ih (Option.map_eq_none_iff.1 h)
        exact ⟨negative, List.mem_cons_of_mem field hmem, hlt⟩
      · next hfield => exact ⟨field, List.mem_cons_self, Int.not_le.1 hfield⟩

/-- An array with a negative field behind its step means nothing. -/
theorem reads_ofStep_of_negative {rest : List Int} (delta : Nat) (h : naturals rest = none) :
    Reads nameCount (delta :: rest) (ofStep delta (delta :: rest) nameCount) := by
  obtain ⟨negative, hmem, hlt⟩ := exists_negative_of_naturals h
  have hbroken : ¬ WellFormed nameCount (delta :: rest) := fun hwell =>
    absurd (hwell.nonneg negative (List.mem_cons_of_mem _ hmem)) (Int.not_le.2 hlt)
  rw [ofStep, List.tail_cons, h]
  split
  · next hlength =>
      obtain rfl : rest = [] := by simpa using hlength
      cases h
  all_goals exact Reads.step delta rest _ hbroken

/-- An array without one means something if it has the right length and its name is in the table. -/
theorem reads_ofStep_of_naturals (delta : Nat) (numbers : List Nat) :
    Reads nameCount (delta :: numbers.map Int.ofNat)
      (ofStep delta (delta :: numbers.map Int.ofNat) nameCount) := by
  have hrest : naturals (numbers.map Int.ofNat) = some numbers := naturals_eq_some_iff.2 rfl
  rw [ofStep, List.tail_cons, hrest]
  match numbers with
  | [] => exact Reads.advance delta
  | [source, line, column] => exact Reads.mapped delta source line column
  | [source, line, column, name] =>
      simp only [List.map_cons, List.map_nil, List.length_cons, List.length_nil]
      split
      · next hname => exact Reads.named delta source line column name hname
      · next hname =>
          refine Reads.step delta _ _ fun hwell => hname ?_
          exact Int.ofNat_lt.1 (hwell.name_lt name rfl)
  | [_] | [_, _] | _ :: _ :: _ :: _ :: _ :: _ =>
      refine Reads.step delta _ _ fun hwell => ?_
      have harity := hwell.arity
      simp at harity

/-- **What an array is read as.** -/
theorem reads_ofFields (nameCount : Nat) (fields : List Int) :
    Reads nameCount fields (ofFields fields nameCount) := by
  cases fields with
  | nil => exact Reads.empty .empty
  | cons first rest =>
      rw [ofFields, List.head?_cons]
      dsimp only
      split
      · next hfirst =>
          obtain ⟨delta, rfl⟩ := Int.eq_ofNat_of_zero_le hfirst
          rw [Int.toNat_natCast]
          cases hrest : naturals rest with
          | none => exact reads_ofStep_of_negative delta hrest
          | some numbers =>
              rw [naturals_eq_some_iff.1 hrest]
              exact reads_ofStep_of_naturals delta numbers
      · next hfirst => exact Reads.negative first rest _ (Int.not_le.1 hfirst)

namespace Reads

variable {fields : List Int} {segment : Segment}

/-- What is left of an array when its segment is written. -/
theorem reproduced (h : Reads nameCount fields segment) :
    Reproduced nameCount fields segment.toFields := by
  cases h with
  | advance delta => exact .whole ⟨.inl rfl, by simp, by simp⟩
  | mapped delta source line column => exact .whole ⟨.inr (.inl rfl), by simp, by simp⟩
  | named delta source line column name hname =>
      exact .whole ⟨.inr (.inr rfl), by simp, by simpa using hname⟩
  | step delta rest fault hbroken => exact .step hbroken (Int.natCast_nonneg delta)
  | negative first rest fault hfirst => exact .negative hfirst
  | empty fault => exact .empty

/-- What is left is read and written without loss. -/
theorem again (h : Reads nameCount fields segment) :
    (ofFields segment.toFields nameCount).toFields = segment.toFields := by
  cases h with
  | advance delta => simp [toFields, ofFields, ofStep]
  | mapped delta source line column => simp [toFields, ofFields, ofStep, naturals]
  | named delta source line column name hname =>
      simp [toFields, ofFields, ofStep, naturals, hname]
  | step delta rest fault hbroken => simp [toFields, ofFields, ofStep]
  | negative first rest fault hfirst => rfl
  | empty fault => rfl

/-- The name of a segment is in the table. -/
theorem name_lt {delta source line column name : Nat}
    (h : Reads nameCount fields (.mapped delta source line column (some name))) :
    name < nameCount := by
  cases h with
  | named _ _ _ _ _ hname => exact hname

end Reads

end Segment

/-! ### Maps -/

namespace NativeMap

open Segment

/-- The size of a table of names; there may be none. -/
def nameCount (names : Option (List String)) : Nat :=
  (names.map List.length).getD 0

theorem name_of_lt (map : NativeMap) {index : Nat} (h : index < nameCount map.names) :
    ∃ text, map.name index = some text := by
  unfold name
  cases hnames : map.names with
  | none => simp [nameCount, hnames] at h
  | some names =>
      rw [hnames] at h
      exact ⟨names[index], List.getElem?_eq_getElem h⟩

theorem rawLines_eq (lines : List (List (List Int))) (names : Option (List String)) :
    (ofLines lines names).rawLines = lines.map fun segments =>
      segments.map fun fields => (ofFields fields (nameCount names)).toFields := by
  simp [rawLines, ofLines, nameCount]

/-- **A map gives back the arrays that mean something**: line by line and segment by segment the arrays have
the same shape, those that mean something are the same, and of the others the step is left, if it can be
read.  Every name that a segment refers to is there, and a map of the arrays given back gives back the same
arrays. -/
theorem rawLines_reproduced (lines : List (List (List Int))) (names : Option (List String))
    (source : Option String) (extras : NativeExtras) :
    let map : NativeMap := { ofLines lines names with source, extras }
    (∀ segments ∈ map.lines, ∀ delta origin line column index,
      Segment.mapped delta origin line column (some index) ∈ segments →
        ∃ text, map.name index = some text) ∧
      List.Forall₂ (List.Forall₂ (Reproduced (nameCount names))) lines map.rawLines ∧
      (ofLines map.rawLines names).rawLines = map.rawLines := by
  intro map
  have hraw : map.rawLines = (ofLines lines names).rawLines := rfl
  refine ⟨?_, ?_, ?_⟩
  · intro segments hsegments delta origin line column index hmem
    obtain ⟨arrays, -, rfl⟩ := List.mem_map.1 hsegments
    obtain ⟨fields, -, hfields⟩ := List.mem_map.1 hmem
    have hreads := reads_ofFields (nameCount names) fields
    exact name_of_lt map (Reads.name_lt (hfields ▸ hreads))
  · rw [hraw, rawLines_eq, List.forall₂_map_right_iff, List.forall₂_same]
    intro arrays _
    rw [List.forall₂_map_right_iff, List.forall₂_same]
    intro fields _
    exact (reads_ofFields (nameCount names) fields).reproduced
  · rw [hraw, rawLines_eq, rawLines_eq, List.map_map]
    refine List.map_congr_left fun arrays _ => ?_
    rw [Function.comp_apply, List.map_map]
    refine List.map_congr_left fun fields _ => ?_
    exact (reads_ofFields (nameCount names) fields).again

/-- A name beyond the table, a negative position, a length that means nothing, and a negative step. -/
example : (ofLines [[[0, 0, 0, 0, 0], [4, 0, 0, 0, 1]], [], [[2, 0, -3, 0], [1, 0], [], [-1, 0, 0, 0]]]
    (some ["item"])).rawLines = [[[0, 0, 0, 0, 0], [4]], [], [[2], [1], [], []]] := by
  decide

end NativeMap

end Inlay
