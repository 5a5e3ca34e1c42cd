/-
**Variable-length quantities read back.**

`Inlay/Map/Vlq.lean` writes a signed number as base-64 digits of five bits and reads all numbers of a
text.  This module proves that the two agree for every signed word but the least one, whose magnitude
loses its top bit.  What is written for a number is a group of digits, and how groups are read is known
from `Inlay/Proofs/Groups.lean`.

Main definitions:

* `Inlay.Vlq.Group.ofNumber` — the group of digits that an unsigned number is written as;
* `Inlay.Vlq.alphabet` — the letters of base 64.

Main results:

* `Inlay.Vlq.number_ofNumber`, `Inlay.Vlq.digitCount_ofNumber_le` — the number of that group, and a bound
  on its digits;
* `Inlay.Vlq.unzigzag_zigzag` — the sign bit is undone;
* `Inlay.Vlq.decode_flatMap_encode` — **a list of numbers is read back**;
* `Inlay.Vlq.digitValue?_isSome_of_mem_encode` — every character written is a digit;
* `Inlay.Vlq.encode_eq_of_begins` — no number is written as the beginning of another one;
* `Inlay.Vlq.encode_uniquely_readable` — **numbers written without anything between them are read back**,
  and why they can be.
-/
import Inlay.Proofs.Groups

set_option autoImplicit false

namespace Inlay.Vlq

/-! ### Digits of an unsigned number -/

/-- Every digit is one of the alphabet. -/
theorem lt_of_mem_digits {n d : Nat} (h : d ∈ digits n) : d < 64 := by
  fun_induction digits n with
  | case1 n hn =>
      rw [List.mem_singleton] at h
      omega
  | case2 n hn ih =>
      rcases List.mem_cons.1 h with rfl | h
      · omega
      · exact ih h

theorem digits_ne_nil (n : Nat) : digits n ≠ [] := by
  rw [digits]
  split <;> simp

/-- The group of digits that an unsigned number is written as. -/
def Group.ofNumber (n : Nat) : Group :=
  if h : n < 32 then .last ⟨n, h⟩
  else .more ⟨n % 32, Nat.mod_lt _ (by decide)⟩ (ofNumber (n / 32))
termination_by n

theorem text_ofNumber (n : Nat) : (Group.ofNumber n).text = (digits n).map digitChar := by
  fun_induction Group.ofNumber n with
  | case1 n h =>
      rw [digits, if_pos h]
      rfl
  | case2 n h ih =>
      rw [digits, if_neg h, List.map_cons, ← ih]
      rfl

theorem number_ofNumber (n : Nat) : (Group.ofNumber n).number = n := by
  fun_induction Group.ofNumber n with
  | case1 n h => rfl
  | case2 n h ih =>
      rw [Group.number, ih]
      exact Nat.mod_add_div n 32

/-- A number below a power of 32 is written with no more digits than its exponent. -/
theorem digitCount_ofNumber_le {n k : Nat} (hpos : 0 < k) (h : n < 32 ^ k) :
    (Group.ofNumber n).digitCount ≤ k := by
  fun_induction Group.ofNumber n generalizing k with
  | case1 n hn => exact hpos
  | case2 n hn ih =>
      obtain ⟨k, rfl⟩ := Nat.exists_eq_succ_of_ne_zero hpos.ne'
      have hk : 0 < k := by
        by_contra hk
        rw [Nat.eq_zero_of_not_pos hk] at h
        omega
      have hdiv : n / 32 < 32 ^ k := by
        rw [Nat.div_lt_iff_lt_mul (by decide), ← pow_succ]
        exact h
      exact Nat.succ_le_succ (ih hk hdiv)

/-! ### Signs -/

/-- Whether a signed word keeps its magnitude when the sign is added: all do but the least one. -/
def Writable (n : Int) : Prop :=
  -0x8000000000000000 < n ∧ n < 0x8000000000000000

theorem zigzag_lt_size {n : Int} (h : Writable n) : zigzag n < Word.size := by
  obtain ⟨hlow, hhigh⟩ := h
  unfold zigzag Word.size
  split <;> omega

theorem unzigzag_zigzag {n : Int} (h : Writable n) : unzigzag (zigzag n) = n := by
  obtain ⟨hlow, hhigh⟩ := h
  unfold unzigzag zigzag Word.size
  split <;> split <;> omega

/-! ### Numbers -/

theorem encode_eq_text (n : Int) : encode n = (Group.ofNumber (zigzag n)).text :=
  (text_ofNumber (zigzag n)).symm

/-- **A list of numbers is read back.** -/
theorem decode_flatMap_encode {ns : List Int} (h : ∀ n ∈ ns, Writable n) :
    decode (ns.flatMap encode) = .ok ns := by
  have hgroups : ns.flatMap encode =
      (ns.map fun n => Group.ofNumber (zigzag n)).flatMap Group.text := by
    rw [List.flatMap_map]
    exact List.flatMap_congr fun n _ => encode_eq_text n
  rw [hgroups, decode_flatMap_text, List.map_map]
  · congr 1
    refine (List.map_congr_left ?_).trans (List.map_id ns)
    intro n hn
    rw [Function.comp_apply, number_ofNumber, Nat.mod_eq_of_lt (zigzag_lt_size (h n hn)),
      unzigzag_zigzag (h n hn), id]
  · intro group hgroup
    obtain ⟨n, hn, rfl⟩ := List.mem_map.1 hgroup
    exact digitCount_ofNumber_le (by decide) ((zigzag_lt_size (h n hn)).trans (by decide))

theorem encode_ne_nil (n : Int) : encode n ≠ [] := by
  simp [encode, digits_ne_nil]

/-- Every character written is a digit. -/
theorem digitValue?_isSome_of_mem_encode {n : Int} {c : Char} (h : c ∈ encode n) :
    (digitValue? c).isSome := by
  obtain ⟨d, hd, rfl⟩ := List.mem_map.1 h
  rw [digitValue?_digitChar (lt_of_mem_digits hd)]
  rfl

/-! ### Numbers without anything between them -/

/-- The letters of base 64, each at the place of its digit. -/
def alphabet : List Char :=
  "ABCDEFGHIJKLMNOPQRSTUVWXYZabcdefghijklmnopqrstuvwxyz0123456789+/".toList

theorem getElem?_alphabet {d : Nat} (h : d < 64) : alphabet[d]? = some (digitChar d) := by
  have hall : ∀ e ∈ List.range 64, alphabet[e]? = some (digitChar e) := by decide
  exact hall d (List.mem_range.2 h)

theorem mem_alphabet_of_mem_encode {n : Int} {c : Char} (h : c ∈ encode n) : c ∈ alphabet := by
  obtain ⟨d, hd, rfl⟩ := List.mem_map.1 h
  exact List.mem_of_getElem? (getElem?_alphabet (lt_of_mem_digits hd))

/-- No number is written as the beginning of another one: both are groups, and a text begins with at most
one group. -/
theorem encode_eq_of_begins {m n : Int} (h : encode m <+: encode n) : encode m = encode n := by
  obtain ⟨rest, hrest⟩ := h
  rw [encode_eq_text, encode_eq_text, ← List.append_nil (Group.ofNumber (zigzag n)).text] at hrest
  rw [encode_eq_text, encode_eq_text, (text_append_inj hrest).1]

theorem eq_of_encode_eq {m n : Int} (hm : Writable m) (hn : Writable n) (h : encode m = encode n) :
    m = n := by
  rw [encode_eq_text, encode_eq_text] at h
  have hgroup := (text_append_inj (congrArg (· ++ []) h)).1
  have hnumber := congrArg Group.number hgroup
  rw [number_ofNumber, number_ofNumber] at hnumber
  rw [← unzigzag_zigzag hm, hnumber, unzigzag_zigzag hn]

/-- **Signed words other than the least one, written without anything between them, are read back.**  What
is written for a number is not empty and consists of letters of base 64, and no number is written as the
beginning of another one. -/
theorem encode_uniquely_readable (ns : List Int)
    (hwords : ∀ n ∈ ns, -2 ^ 63 ≤ n ∧ n < 2 ^ 63) (hleast : ∀ n ∈ ns, n ≠ -2 ^ 63) :
    decode (ns.flatMap encode) = .ok ns ∧
    (∀ n : Int, encode n ≠ [] ∧ ∀ c ∈ encode n, c ∈ alphabet) ∧
    (∀ m n : Int, encode m <+: encode n → encode m = encode n) ∧
    ∀ m ∈ ns, ∀ n ∈ ns, encode m <+: encode n → m = n := by
  have hwritable : ∀ n ∈ ns, Writable n := by
    intro n hn
    obtain ⟨hlow, hhigh⟩ := hwords n hn
    exact ⟨lt_of_le_of_ne hlow (hleast n hn).symm, hhigh⟩
  refine ⟨decode_flatMap_encode hwritable, ?_, fun m n => encode_eq_of_begins, ?_⟩
  · intro n
    exact ⟨encode_ne_nil n, fun c => mem_alphabet_of_mem_encode⟩
  · intro m hm n hn hbegins
    exact eq_of_encode_eq (hwritable m hm) (hwritable n hn) (encode_eq_of_begins hbegins)

/-- Both signs, a number of two digits, and the two words with the greatest magnitude. -/
theorem encode_uniquely_readable_widest :
    ∃ ns : List Int, ns = [0, -1, 16, 2 ^ 63 - 1, -(2 ^ 63 - 1)] ∧
      (∀ n ∈ ns, -2 ^ 63 ≤ n ∧ n < 2 ^ 63) ∧ (∀ n ∈ ns, n ≠ -2 ^ 63) ∧
      decode (ns.flatMap encode) = .ok ns := by
  have hwords : ∀ n ∈ ([0, -1, 16, 2 ^ 63 - 1, -(2 ^ 63 - 1)] : List Int),
      -2 ^ 63 ≤ n ∧ n < 2 ^ 63 := by decide
  have hleast : ∀ n ∈ ([0, -1, 16, 2 ^ 63 - 1, -(2 ^ 63 - 1)] : List Int), n ≠ -2 ^ 63 := by decide
  exact ⟨_, rfl, hwords, hleast, (encode_uniquely_readable _ hwords hleast).1⟩

/-- The least signed word loses its magnitude and is read back as zero. -/
example : decode (encode (-2 ^ 63)) = .ok [0] := by decide +kernel

end Inlay.Vlq
