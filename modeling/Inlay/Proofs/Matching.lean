/-
**What patterns match.**

`Inlay/Pattern/Basic.lean` gives a pattern its meaning on sets of places, so that no search is needed.  Here
that meaning is compared with the usual one, where a pattern relates the place at which a match starts to the
place at which it ends.  One pass over the text does to a set of places what the relation does to its
elements.  For a repetition without a bound this needs an argument: each round either adds a place or
nothing will change any more, and there are only so many places to add.

Main definitions:

* `Inlay.Pattern.Stands` — a word between two places of a text;
* `Inlay.Pattern.Matches` — **between which places of a text a pattern matches**;
* `Inlay.Pattern.Marked` — the places of a set;
* `Inlay.Pattern.Follows` — a step on sets of places that follows a relation between places.

Main results:

* `Inlay.Pattern.Follows.upTo_all` — rounds until nothing changes are any number of rounds;
* `Inlay.Pattern.follows_reach` — what is computed is what the pattern matches;
* `Inlay.Pattern.occursIn_iff` — **a pattern occurs in a text if it matches somewhere in it**;
* `Inlay.Rules.mayLoop_standard_iff` — the code that the default rules look at.
-/
import Inlay.Proofs.Findings
import Mathlib.Data.List.Basic

set_option autoImplicit false

namespace Inlay

namespace Pattern

variable {text : List Char}

/-! ### Words in a text -/

/-- Whether a word stands between two places of a text. -/
def Stands (text word : List Char) (i j : Nat) : Prop :=
  word <+: text.drop i ∧ j = i + word.length

theorem stands_nil {i j : Nat} : Stands text [] i j ↔ i = j := by
  simp [Stands, eq_comm]

theorem stands_singleton {c : Char} {i j : Nat} :
    Stands text [c] i j ↔ text[i]? = some c ∧ j = i + 1 := by
  rw [Stands, ← List.head?_drop, List.length_singleton]
  cases text.drop i <;> simp [eq_comm]

/-- Words one after the other. -/
theorem stands_append {front back : List Char} {i j : Nat} :
    Stands text (front ++ back) i j ↔ ∃ k, Stands text front i k ∧ Stands text back k j := by
  constructor
  · rintro ⟨⟨rest, hrest⟩, rfl⟩
    rw [List.append_assoc] at hrest
    refine ⟨i + front.length, ⟨⟨back ++ rest, hrest⟩, rfl⟩, ⟨rest, ?_⟩, ?_⟩
    · rw [← List.drop_drop, ← hrest, List.drop_left]
    · rw [List.length_append, Nat.add_assoc]
  · rintro ⟨_, ⟨⟨rest, hrest⟩, rfl⟩, ⟨last, hlast⟩, rfl⟩
    rw [← List.drop_drop, ← hrest, List.drop_left] at hlast
    refine ⟨⟨last, ?_⟩, ?_⟩
    · rw [← hrest, ← hlast, List.append_assoc]
    · rw [List.length_append, Nat.add_assoc]

theorem exists_stands_iff {word : List Char} :
    (∃ i ≤ text.length, ∃ j, Stands text word i j) ↔ word <:+: text := by
  constructor
  · rintro ⟨i, _, _, hword, _⟩
    exact hword.isInfix.trans (List.drop_suffix i text).isInfix
  · rintro ⟨front, back, rfl⟩
    refine ⟨front.length, ?_, _, ⟨back, ?_⟩, rfl⟩
    · rw [List.length_append, List.length_append]
      omega
    · rw [List.append_assoc, List.drop_left]

/-! ### Matches -/

/-- A relation, a number of times in a row. -/
def Repeated (R : Nat → Nat → Prop) : Nat → Nat → Nat → Prop
  | 0, i, j => i = j
  | n + 1, i, j => ∃ k, R i k ∧ Repeated R n k j

/-- Between which places of a text a pattern matches. -/
def Matches (text : List Char) : Pattern → Nat → Nat → Prop
  | empty, i, j => i = j
  | oneOf chars, i, j => ∃ c, chars.contains c.toNat = true ∧ Stands text [c] i j
  | place condition, i, j => i = j ∧ condition.holds (text.take i).getLast? text[i]? = true
  | seq first second, i, j => ∃ k, Matches text first i k ∧ Matches text second k j
  | alt left right, i, j => Matches text left i j ∨ Matches text right i j
  | times body least most, i, j =>
    ∃ n, least ≤ n ∧ (∀ bound ∈ most, n ≤ max least bound) ∧ Repeated (Matches text body) n i j

variable {R : Nat → Nat → Prop}

theorem repeated_add {m n i j : Nat} :
    Repeated R (m + n) i j ↔ ∃ k, Repeated R m i k ∧ Repeated R n k j := by
  induction m generalizing i with
  | zero => simp [Repeated]
  | succ m ih =>
      rw [Nat.succ_add]
      simp only [Repeated, ih]
      constructor
      · rintro ⟨k, hfirst, l, hmore, hlast⟩
        exact ⟨l, ⟨k, hfirst, hmore⟩, hlast⟩
      · rintro ⟨l, ⟨k, hfirst, hmore⟩, hlast⟩
        exact ⟨k, hfirst, l, hmore, hlast⟩

/-- A number of rounds, and then some that depend on nothing but their number. -/
theorem repeated_from_iff {P : Nat → Prop} {least i j : Nat} :
    (∃ k, Repeated R least i k ∧ ∃ n, P n ∧ Repeated R n k j) ↔
      ∃ n, least ≤ n ∧ P (n - least) ∧ Repeated R n i j := by
  constructor
  · rintro ⟨k, hleast, n, hn, hmore⟩
    refine ⟨least + n, Nat.le_add_right _ _, ?_, repeated_add.2 ⟨k, hleast, hmore⟩⟩
    rwa [Nat.add_sub_cancel_left]
  · rintro ⟨n, hle, hn, hrepeated⟩
    rw [← Nat.add_sub_of_le hle] at hrepeated
    obtain ⟨k, hleast, hmore⟩ := repeated_add.1 hrepeated
    exact ⟨k, hleast, n - least, hn, hmore⟩

/-- One round that may be left out, and some more. -/
theorem repeated_le_succ_iff {count i j : Nat} :
    (∃ k, (i = k ∨ R i k) ∧ ∃ n ≤ count, Repeated R n k j) ↔ ∃ n ≤ count + 1, Repeated R n i j := by
  constructor
  · rintro ⟨k, rfl | hfirst, n, hn, hrepeated⟩
    · exact ⟨n, Nat.le_succ_of_le hn, hrepeated⟩
    · exact ⟨n + 1, Nat.succ_le_succ hn, k, hfirst, hrepeated⟩
  · rintro ⟨_ | n, hn, hrepeated⟩
    · exact ⟨i, Or.inl rfl, 0, Nat.zero_le _, hrepeated⟩
    · obtain ⟨k, hfirst, hmore⟩ := hrepeated
      exact ⟨k, Or.inr hfirst, n, Nat.le_of_succ_le_succ hn, hmore⟩

/-- What is closed under a relation is closed under its repetitions. -/
theorem Repeated.closed {P : Nat → Prop} (hclosed : ∀ i j, P i → R i j → P j) {n i j : Nat} (hi : P i)
    (h : Repeated R n i j) : P j := by
  induction n generalizing i with
  | zero =>
      obtain rfl : i = j := h
      exact hi
  | succ n ih =>
      obtain ⟨k, hfirst, hmore⟩ := h
      exact ih (hclosed i k hi hfirst) hmore

/-- A character of a set, a number of times, is a word of such characters. -/
theorem repeated_oneOf_iff {chars : CharSet} {n i j : Nat} :
    Repeated (Matches text (oneOf chars)) n i j ↔
      ∃ word, word.length = n ∧ (∀ c ∈ word, chars.contains c.toNat = true) ∧ Stands text word i j := by
  induction n generalizing i with
  | zero => simp [Repeated, List.length_eq_zero_iff, stands_nil]
  | succ n ih =>
      simp only [Repeated, ih]
      constructor
      · rintro ⟨k, ⟨c, hc, hfirst⟩, word, hlength, hword, hmore⟩
        refine ⟨[c] ++ word, ?_, ?_, stands_append.2 ⟨k, hfirst, hmore⟩⟩
        · rw [List.length_append, hlength, List.length_singleton, Nat.add_comm]
        · exact List.forall_mem_cons.2 ⟨hc, hword⟩
      · rintro ⟨word, hlength, hword, hstands⟩
        obtain ⟨c, rest, rfl⟩ := List.exists_cons_of_length_eq_add_one hlength
        rw [List.forall_mem_cons] at hword
        rw [← List.singleton_append] at hstands
        obtain ⟨k, hfirst, hmore⟩ := stands_append.1 hstands
        exact ⟨k, ⟨c, hword.1, hfirst⟩, rest, Nat.succ.inj hlength, hword.2, hmore⟩

/-! ### Sets of places -/

/-- Whether a place belongs to a set of places. -/
def Marked (places : List Bool) (i : Nat) : Prop :=
  places[i]? = some true

theorem Marked.lt {places : List Bool} {i : Nat} (h : Marked places i) : i < places.length :=
  (List.getElem?_eq_some_iff.1 h).1

theorem marked_replicate {n i : Nat} : Marked (List.replicate n true) i ↔ i < n := by
  simp [Marked, List.getElem?_replicate]

theorem any_id_iff {places : List Bool} : places.any id = true ↔ ∃ i, Marked places i := by
  rw [List.any_eq_true]
  constructor
  · rintro ⟨_, hmem, rfl⟩
    exact List.mem_iff_getElem?.1 hmem
  · rintro ⟨i, hi⟩
    exact ⟨true, List.mem_of_getElem? hi, rfl⟩

theorem length_union {left right : List Bool} (h : left.length = right.length) :
    (union left right).length = left.length := by
  rw [union, List.length_zipWith, h, Nat.min_self]

theorem marked_union {left right : List Bool} (h : left.length = right.length) {i : Nat} :
    Marked (union left right) i ↔ Marked left i ∨ Marked right i := by
  rw [Marked, union, List.getElem?_zipWith, Marked, Marked]
  by_cases hi : i < left.length
  · simp [List.getElem?_eq_getElem hi, List.getElem?_eq_getElem (h ▸ hi)]
  · have hleft : left[i]? = none := List.getElem?_eq_none (by omega)
    have hright : right[i]? = none := List.getElem?_eq_none (by omega)
    simp [hleft, hright]

/-- A union that is not the left set has more places. -/
theorem count_union_lt {left right : List Bool} (h : left.length = right.length)
    (hne : union left right ≠ left) : left.count true < (union left right).count true := by
  induction left generalizing right with
  | nil => exact absurd List.zipWith_nil_left hne
  | cons b left ih =>
      cases right with
      | nil => cases h
      | cons b' right =>
          have htail : left.length = right.length := Nat.succ.inj h
          have hle : left.count true ≤ (union left right).count true := by
            by_cases hsame : union left right = left
            · exact Nat.le_of_eq (by rw [hsame])
            · exact Nat.le_of_lt (ih htail hsame)
          have hcons : union (b :: left) (b' :: right) = (b || b') :: union left right := rfl
          rw [hcons] at hne ⊢
          cases b with
          | true =>
              rw [Bool.true_or] at hne ⊢
              have hlt := ih htail fun hsame => hne (by rw [hsame])
              simpa using hlt
          | false =>
              cases b' with
              | true =>
                  rw [Bool.or_true, List.count_cons_self, List.count_cons_of_ne (by decide)]
                  exact Nat.lt_succ_of_le hle
              | false =>
                  rw [Bool.or_false] at hne ⊢
                  have hlt := ih htail fun hsame => hne (by rw [hsame])
                  simpa using hlt

/-! ### Steps that follow a relation -/

/-- Whether a step on the sets of places of a text follows a relation: it sends the places of a set to those
that they are related to. -/
structure Follows (length : Nat) (step : List Bool → List Bool) (R : Nat → Nat → Prop) : Prop where
  length_eq : ∀ {places : List Bool}, places.length = length → (step places).length = length
  marked_iff : ∀ {places : List Bool}, places.length = length → ∀ {j : Nat},
    Marked (step places) j ↔ ∃ i, Marked places i ∧ R i j

namespace Follows

variable {length : Nat} {step first second : List Bool → List Bool} {S : Nat → Nat → Prop}

theorem refl : Follows length (fun places => places) Eq where
  length_eq h := h
  marked_iff _ := by simp

theorem trans (hfirst : Follows length first R) (hsecond : Follows length second S) :
    Follows length (fun places => second (first places)) fun i j => ∃ k, R i k ∧ S k j where
  length_eq h := hsecond.length_eq (hfirst.length_eq h)
  marked_iff h j := by
    rw [hsecond.marked_iff (hfirst.length_eq h)]
    simp only [hfirst.marked_iff h]
    constructor
    · rintro ⟨k, ⟨i, hi, hik⟩, hkj⟩
      exact ⟨i, hi, k, hik, hkj⟩
    · rintro ⟨i, hi, k, hik, hkj⟩
      exact ⟨k, ⟨i, hi, hik⟩, hkj⟩

theorem union (hfirst : Follows length first R) (hsecond : Follows length second S) :
    Follows length (fun places => Pattern.union (first places) (second places))
      fun i j => R i j ∨ S i j where
  length_eq {places} h := by
    rw [length_union ((hfirst.length_eq h).trans (hsecond.length_eq h).symm), hfirst.length_eq h]
  marked_iff {places} h j := by
    have hlength : (first places).length = (second places).length :=
      (hfirst.length_eq h).trans (hsecond.length_eq h).symm
    rw [marked_union hlength, hfirst.marked_iff h, hsecond.marked_iff h, ← exists_or]
    simp only [and_or_left]

theorem congr (h : Follows length step R) (hiff : ∀ i j, R i j ↔ S i j) : Follows length step S where
  length_eq := h.length_eq
  marked_iff hplaces j := by
    rw [h.marked_iff hplaces]
    simp only [hiff]

/-- A number of rounds. -/
theorem exactly (h : Follows length step R) (n : Nat) :
    Follows length (Pattern.exactly step n) (Repeated R n) := by
  induction n with
  | zero => exact refl
  | succ n ih =>
      have hrounds := h.trans ih
      refine ⟨fun {places} hplaces => ?_, fun {places} hplaces {j} => ?_⟩
      · rw [Pattern.exactly]
        split
        · exact hrounds.length_eq hplaces
        · exact hplaces
      · rw [Pattern.exactly]
        split
        · exact hrounds.marked_iff hplaces
        · next hnone =>
            -- without a place to start from there is none to come to
            rw [any_id_iff, not_exists] at hnone
            constructor
            · intro hj
              exact absurd hj (hnone j)
            · rintro ⟨i, hi, _⟩
              exact absurd hi (hnone i)

/-- The set after one more round. -/
theorem more (h : Follows length step R) :
    Follows length (fun places => Pattern.union places (step places)) fun i j => i = j ∨ R i j :=
  refl.union h

/-- A set that does not grow is closed under the relation. -/
theorem closed_of_union_eq (h : Follows length step R) {places : List Bool}
    (hplaces : places.length = length) (hsame : Pattern.union places (step places) = places) {i j : Nat}
    (hi : Marked places i) (hij : R i j) : Marked places j := by
  have hj : Marked (Pattern.union places (step places)) j :=
    (h.more.marked_iff hplaces).2 ⟨i, hi, Or.inr hij⟩
  rwa [hsame] at hj

/-- At most a number of rounds. -/
theorem upTo (h : Follows length step R) (count : Nat) :
    Follows length (Pattern.upTo step count) fun i j => ∃ n ≤ count, Repeated R n i j := by
  induction count with
  | zero => exact refl.congr fun i j => by simp [Repeated]
  | succ count ih =>
      have hrounds := (h.more.trans ih).congr fun _ _ => repeated_le_succ_iff
      refine ⟨fun {places} hplaces => ?_, fun {places} hplaces {j} => ?_⟩
      · rw [Pattern.upTo]
        split
        · exact hplaces
        · exact hrounds.length_eq hplaces
      · rw [Pattern.upTo]
        split
        · next hsame =>
            -- the set is closed already, so further rounds add nothing to it
            constructor
            · intro hj
              exact ⟨j, hj, 0, Nat.zero_le _, rfl⟩
            · rintro ⟨i, hi, n, _, hrepeated⟩
              exact Repeated.closed (P := Marked places)
                (fun _ _ => h.closed_of_union_eq hplaces hsame) hi hrepeated
        · exact hrounds.marked_iff hplaces

/-- When there are as many rounds as places that are missing, the set that is reached is closed. -/
theorem closed_upTo (h : Follows length step R) {count : Nat} {places : List Bool}
    (hplaces : places.length = length) (hcount : length ≤ count + places.count true) {i j : Nat}
    (hi : Marked (Pattern.upTo step count places) i) (hij : R i j) :
    Marked (Pattern.upTo step count places) j := by
  induction count generalizing places with
  | zero =>
      -- every place is in the set
      rw [Pattern.upTo] at hi ⊢
      have hall : ∀ b ∈ places, true = b := by
        refine List.count_eq_length.1 (Nat.le_antisymm List.count_le_length ?_)
        omega
      have hlt : j < places.length := by
        have hj : Marked (step places) j := (h.marked_iff hplaces).2 ⟨i, hi, hij⟩
        rw [hplaces, ← h.length_eq hplaces]
        exact hj.lt
      rw [Marked, List.getElem?_eq_getElem hlt, ← hall _ (List.getElem_mem hlt)]
  | succ count ih =>
      rw [Pattern.upTo] at hi ⊢
      split at hi
      · next hsame =>
          rw [if_pos hsame]
          exact h.closed_of_union_eq hplaces hsame hi hij
      · next hgrows =>
          rw [if_neg hgrows]
          have hlength : places.length = (step places).length := by
            rw [hplaces, h.length_eq hplaces]
          have hlt := count_union_lt hlength hgrows
          exact ih (h.more.length_eq hplaces) (by omega) hi

/-- **Rounds until nothing changes are any number of rounds.** -/
theorem upTo_all (h : Follows length step R) {count : Nat} (hcount : length ≤ count) :
    Follows length (Pattern.upTo step count) fun i j => ∃ n, Repeated R n i j where
  length_eq := (h.upTo count).length_eq
  marked_iff {places} hplaces j := by
    constructor
    · intro hj
      obtain ⟨i, hi, n, _, hrepeated⟩ := ((h.upTo count).marked_iff hplaces).1 hj
      exact ⟨i, hi, n, hrepeated⟩
    · rintro ⟨i, hi, n, hrepeated⟩
      have hstart : Marked (Pattern.upTo step count places) i :=
        ((h.upTo count).marked_iff hplaces).2 ⟨i, hi, 0, Nat.zero_le _, rfl⟩
      exact Repeated.closed (P := Marked (Pattern.upTo step count places))
        (fun _ _ => h.closed_upTo hplaces (Nat.le_add_right_of_le hcount)) hstart hrepeated

end Follows

/-! ### Patterns -/

theorem length_places (condition : Assertion) (before : Option Char) :
    (condition.places before text).length = text.length + 1 := by
  induction text generalizing before with
  | nil => rfl
  | cons c text ih => rw [Assertion.places, List.length_cons, ih, List.length_cons]

/-- The truth of a condition at a place depends on the characters around it. -/
theorem getElem?_places (condition : Assertion) (before : Option Char) {i : Nat} (hi : i ≤ text.length) :
    (condition.places before text)[i]? =
      some (condition.holds ((text.take i).getLast?.or before) text[i]?) := by
  induction text generalizing before i with
  | nil =>
      obtain rfl : i = 0 := Nat.le_zero.1 hi
      rfl
  | cons c text ih =>
      cases i with
      | zero => rfl
      | succ i =>
          rw [Assertion.places, List.getElem?_cons_succ, ih (some c) (Nat.le_of_succ_le_succ hi),
            List.take_succ_cons, List.getLast?_cons, List.getElem?_cons_succ]
          cases (text.take i).getLast? <;> rfl

theorem follows_stepSet (chars : CharSet) :
    Follows (text.length + 1) (stepSet chars text) (Matches text (oneOf chars)) where
  length_eq {places} hplaces := by
    rw [stepSet, List.length_cons, List.length_zipWith, hplaces]
    omega
  marked_iff {places} _ j := by
    rw [stepSet, Marked]
    simp only [Matches, stands_singleton]
    cases j with
    | zero => simp
    | succ j =>
        rw [List.getElem?_cons_succ, List.getElem?_zipWith_eq_some]
        constructor
        · rintro ⟨here, c, hhere, hc, hboth⟩
          rw [Bool.and_eq_true] at hboth
          exact ⟨j, by rw [Marked, hhere, hboth.1], c, hboth.2, hc, rfl⟩
        · rintro ⟨i, hi, c, hin, hc, hij⟩
          obtain rfl := Nat.succ.inj hij
          exact ⟨true, c, hi, hc, hin⟩

theorem follows_place (condition : Assertion) :
    Follows (text.length + 1)
      (fun places => List.zipWith (· && ·) places (condition.places none text))
      (Matches text (place condition)) where
  length_eq {places} hplaces := by
    rw [List.length_zipWith, hplaces, length_places, Nat.min_self]
  marked_iff {places} hplaces j := by
    have hplace : ∀ i, Marked places i →
        (condition.places none text)[i]? = some (condition.holds (text.take i).getLast? text[i]?) := by
      intro i hi
      have hlt := hi.lt
      rw [getElem?_places condition none (by omega), Option.or_none]
    rw [Marked, List.getElem?_zipWith_eq_some]
    constructor
    · rintro ⟨here, holds, hhere, hholds, hboth⟩
      obtain ⟨rfl, rfl⟩ := Bool.and_eq_true_iff.1 hboth
      rw [hplace j hhere] at hholds
      exact ⟨j, hhere, rfl, Option.some.inj hholds⟩
    · rintro ⟨i, hi, rfl, hholds⟩
      refine ⟨true, true, hi, ?_, rfl⟩
      rw [hplace i hi, hholds]

/-- **What is computed on sets of places is what the pattern matches.** -/
theorem follows_reach (pattern : Pattern) :
    Follows (text.length + 1) (pattern.reach text) (Matches text pattern) := by
  induction pattern with
  | empty => exact Follows.refl
  | oneOf chars => exact follows_stepSet chars
  | place condition => exact follows_place condition
  | seq first second hfirst hsecond => exact hfirst.trans hsecond
  | alt left right hleft hright => exact hleft.union hright
  | times body least most hbody =>
      cases most with
      | none =>
          refine ((hbody.exactly least).trans (hbody.upTo_all (Nat.le_refl _))).congr fun i j => ?_
          simpa [Matches] using repeated_from_iff (P := fun _ => True)
      | some most =>
          refine ((hbody.exactly least).trans (hbody.upTo (most - least))).congr fun i j => ?_
          rw [repeated_from_iff (P := fun n => n ≤ most - least)]
          refine exists_congr fun n => and_congr_right fun hle => and_congr_left fun _ => ?_
          have hbound : n - least ≤ most - least ↔ n ≤ max least most := by omega
          simpa using hbound

/-- **A pattern occurs in a text if it matches somewhere in it.** -/
theorem occursIn_iff {pattern : Pattern} {text : String} :
    pattern.occursIn text = true ↔
      ∃ i ≤ text.toList.length, ∃ j, Matches text.toList pattern i j := by
  rw [occursIn, any_id_iff]
  simp only [(follows_reach pattern).marked_iff List.length_replicate, marked_replicate,
    Nat.lt_succ_iff]
  constructor
  · rintro ⟨j, i, hi, hmatches⟩
    exact ⟨i, hi, j, hmatches⟩
  · rintro ⟨i, hi, j, hmatches⟩
    exact ⟨j, i, hi, hmatches⟩

/-! ### Words as patterns -/

theorem matches_empty (i j : Nat) : Matches text empty i j ↔ Stands text [] i j := by
  rw [Matches, stands_nil]

theorem matches_single {c : Char} {i j : Nat} :
    Matches text (oneOf (.single c)) i j ↔ Stands text [c] i j := by
  constructor
  · rintro ⟨d, hd, hstands⟩
    rw [CharSet.single, CharSet.contains, Bool.and_eq_true, decide_eq_true_iff, decide_eq_true_iff] at hd
    obtain rfl : c = d := Char.toNat_inj.1 (Nat.le_antisymm hd.1 hd.2)
    exact hstands
  · intro hstands
    refine ⟨c, ?_, hstands⟩
    simp [CharSet.single, CharSet.contains]

/-- A pattern for one word and a character after it. -/
theorem matches_seq_single {pattern : Pattern} {word : List Char} {c : Char}
    (h : ∀ i j, Matches text pattern i j ↔ Stands text word i j) (i j : Nat) :
    Matches text (seq pattern (oneOf (.single c))) i j ↔ Stands text (word ++ [c]) i j := by
  rw [stands_append]
  exact exists_congr fun k => and_congr (h i k) matches_single

/-- Any number of characters of a set. -/
theorem matches_many {chars : CharSet} {i j : Nat} :
    Matches text (times (oneOf chars) 0 none) i j ↔
      ∃ word, (∀ c ∈ word, chars.contains c.toNat = true) ∧ Stands text word i j := by
  constructor
  · rintro ⟨n, _, _, hrepeated⟩
    obtain ⟨word, _, hword, hstands⟩ := repeated_oneOf_iff.1 hrepeated
    exact ⟨word, hword, hstands⟩
  · rintro ⟨word, hword, hstands⟩
    exact ⟨word.length, Nat.zero_le _, by simp, repeated_oneOf_iff.2 ⟨word, rfl, hword, hstands⟩⟩

end Pattern

/-! ### The code that the default rules look at -/

namespace Rules

/-- The pattern of the default rules: a word, white space, a parenthesis. -/
theorem loops_standard :
    Rules.standard.loops =
      .seq (.seq (.seq (.seq (.seq .empty (.oneOf (.single 'f'))) (.oneOf (.single 'o')))
          (.oneOf (.single 'r'))) (.times (.oneOf .space) 0 none)) (.oneOf (.single '(')) :=
  rfl

/-- **Code is looked at if somewhere in it only white space stands between the word `for` and a
parenthesis.** -/
theorem mayLoop_standard_iff {code : String} :
    Rules.standard.mayLoop code = true ↔
      ∃ blanks, (∀ c ∈ blanks, Unicode.isSpace c = true) ∧
        "for".toList ++ (blanks ++ ['(']) <:+: code.toList := by
  have hword : ∀ i j, Pattern.Matches code.toList (.seq (.seq (.seq .empty (.oneOf (.single 'f')))
      (.oneOf (.single 'o'))) (.oneOf (.single 'r'))) i j ↔
      Pattern.Stands code.toList "for".toList i j :=
    Pattern.matches_seq_single (Pattern.matches_seq_single
      (Pattern.matches_seq_single Pattern.matches_empty))
  have hspace : ∀ c, CharSet.space.contains c.toNat = Unicode.isSpace c := by
    intro c
    rw [CharSet.contains, Char.ofNat_toNat]
  rw [mayLoop, loops_standard, Pattern.occursIn_iff]
  simp only [← Pattern.exists_stands_iff, Pattern.stands_append, ← hspace]
  constructor
  · rintro ⟨i, hi, j, k, ⟨l, hfor, hmany⟩, hopen⟩
    obtain ⟨blanks, hblanks, hstands⟩ := Pattern.matches_many.1 hmany
    exact ⟨blanks, hblanks, i, hi, j, l, (hword i l).1 hfor, k, hstands, Pattern.matches_single.1 hopen⟩
  · rintro ⟨blanks, hblanks, i, hi, j, l, hfor, k, hstands, hopen⟩
    exact ⟨i, hi, j, k, ⟨l, (hword i l).2 hfor, Pattern.matches_many.2 ⟨blanks, hblanks, hstands⟩⟩,
      Pattern.matches_single.2 hopen⟩

end Rules

end Inlay
