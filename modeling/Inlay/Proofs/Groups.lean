/-
**Groups of digits.**

A text of digits falls into groups: digits with the continuation bit, and behind them one without it.  A
group denotes a signed number of any size.  The five low bits of its digits are a number in base 32, lowest
digit first, with the sign in its lowest bit.  The reader of `Inlay/Map/Vlq.lean` takes groups of up to
thirteen digits, which hold 65 bits, into a word of 64 bits.  So it reads a group as the number that it
denotes exactly if the topmost of those bits is not set.

Main definitions:

* `Inlay.Vlq.Group` — a group of digits, with its characters and its length;
* `Inlay.Vlq.Group.number`, `Inlay.Vlq.Group.value` — the number in base 32 and **the signed number that a
  group denotes**.

Main results:

* `Inlay.Vlq.decodeFrom_text` — a group is read as its number, less the bits beyond a word;
* `Inlay.Vlq.decode_eq_ok_iff` — **the texts that can be read** are those of groups of at most thirteen
  digits;
* `Inlay.Vlq.flatMap_text_injective` — a text falls into groups in one way only;
* `Inlay.Vlq.decode_value_iff` — **a group is read as what it denotes exactly if it fits a word**;
* `Inlay.Vlq.decode_loses_top_bit` — a group that does not fit, and is read as zero.
-/
import Inlay.Map.Vlq
import Mathlib.Data.List.Forall2
import Mathlib.Tactic.Ring

set_option autoImplicit false

namespace Inlay.Vlq

/-! ### Groups -/

/-- A group of digits, lowest first; of each digit the five low bits.  All but the last one carry the
continuation bit. -/
inductive Group where
  | last (low : Fin 32)
  | more (low : Fin 32) (rest : Group)
  deriving DecidableEq, Repr

namespace Group

/-- The characters of a group. -/
def text : Group → List Char
  | last low => [digitChar low.val]
  | more low rest => digitChar (low.val + 32) :: rest.text

/-- The number of digits. -/
def digitCount : Group → Nat
  | last _ => 1
  | more _ rest => rest.digitCount + 1

/-- The low bits of the digits as a number in base 32, lowest digit first. -/
def number : Group → Nat
  | last low => low.val
  | more low rest => low.val + 32 * rest.number

/-- The signed number that a group denotes: half its number is the magnitude, and an odd number is
negative. -/
def value (group : Group) : Int :=
  (-1) ^ (group.number % 2) * (group.number / 2 : Nat)

theorem text_ne_nil (group : Group) : group.text ≠ [] := by
  cases group <;> simp [text]

theorem digitCount_pos (group : Group) : 0 < group.digitCount := by
  cases group <;> simp [digitCount]

end Group

/-! ### The alphabet -/

/-- A character behind another one, by its distance. -/
theorem ofNat_add_sub {low : Nat} {c : Char} (h : low ≤ c.toNat) :
    Char.ofNat (low + (c.toNat - low)) = c := by
  rw [Nat.add_sub_cancel' h, Char.ofNat_toNat]

/-- A digit is written with the letter that it was read from. -/
theorem digitChar_of_digitValue? {c : Char} {d : Nat} (h : digitValue? c = some d) :
    d < 64 ∧ digitChar d = c := by
  have hle (low high : Char) :
      (low ≤ c ∧ c ≤ high) ↔ (low.toNat ≤ c.toNat ∧ c.toNat ≤ high.toNat) := by
    simp only [Char.le_def, UInt32.le_iff_toNat_le, Char.toNat]
  simp only [digitValue?, hle, Char.reduceToNat] at h
  split_ifs at h with hupper hlower hnumeral hplus hslash
  · obtain rfl := Option.some.inj h
    refine ⟨by omega, ?_⟩
    rw [digitChar, if_pos (by omega)]
    exact ofNat_add_sub hupper.1
  · obtain rfl := Option.some.inj h
    refine ⟨by omega, ?_⟩
    rw [digitChar, if_neg (by omega), if_pos (by omega), Nat.add_sub_cancel]
    exact ofNat_add_sub hlower.1
  · obtain rfl := Option.some.inj h
    refine ⟨by omega, ?_⟩
    rw [digitChar, if_neg (by omega), if_neg (by omega), if_pos (by omega), Nat.add_sub_cancel]
    exact ofNat_add_sub hnumeral.1
  · obtain rfl := Option.some.inj h
    exact ⟨by omega, hplus.symm⟩
  · obtain rfl := Option.some.inj h
    exact ⟨by omega, hslash.symm⟩

/-- Different digits are written with different letters. -/
theorem eq_of_digitChar_eq {d e : Nat} (hd : d < 64) (he : e < 64) (h : digitChar d = digitChar e) :
    d = e := by
  have hread := digitValue?_digitChar hd
  rw [h, digitValue?_digitChar he] at hread
  exact (Option.some.inj hread).symm

/-- A digit read where there is room for it; what it has beyond a word is lost. -/
theorem decodeFrom_digit {word shift d : Nat} (hd : d < 64) (hshift : shift ≤ 60) (cs : List Char) :
    decodeFrom word shift (digitChar d :: cs) =
      if d < 32 then (decodeFrom 0 0 cs).map (unzigzag (word + d % 32 * 2 ^ shift % Word.size) :: ·)
      else decodeFrom (word + d % 32 * 2 ^ shift % Word.size) (shift + 5) cs := by
  rw [decodeFrom, digitValue?_digitChar hd]
  simp only [Nat.not_lt.2 hshift, if_false, Nat.shiftLeft_eq]

/-! ### Reading a group -/

/-- Bits above those of a word, cut off at the top, are the whole cut off at the top. -/
theorem add_mod_size {word shift : Nat} (hword : word < 2 ^ shift) (hshift : shift ≤ 64) (bits : Nat) :
    word + bits * 2 ^ shift % Word.size = (word + bits * 2 ^ shift) % Word.size := by
  have hsize : Word.size = 2 ^ (64 - shift) * 2 ^ shift := by
    rw [← pow_add, Nat.sub_add_cancel hshift]
    rfl
  have hlt : word + bits * 2 ^ shift % Word.size < Word.size := by
    have hbits : bits % 2 ^ (64 - shift) + 1 ≤ 2 ^ (64 - shift) := Nat.mod_lt _ (Nat.two_pow_pos _)
    have hle := Nat.mul_le_mul_right (2 ^ shift) hbits
    rw [hsize, Nat.mul_mod_mul_right]
    rw [Nat.add_mul] at hle
    omega
  rw [← Nat.add_mod_mod, Nat.mod_eq_of_lt hlt]

/-- **A group is read as its number**, with the bits of `word` in front of it and without those that are
beyond a word. -/
theorem decodeFrom_text {group : Group} {word shift : Nat} (hword : word < 2 ^ shift)
    (hcount : shift + 5 * group.digitCount ≤ 65) (rest : List Char) :
    decodeFrom word shift (group.text ++ rest) =
      (decodeFrom 0 0 rest).map
        (unzigzag ((word + group.number * 2 ^ shift) % Word.size) :: ·) := by
  induction group generalizing word shift with
  | last low =>
      have hshift : shift ≤ 60 := by
        simp only [Group.digitCount] at hcount
        omega
      have hlow : low.val % 32 = low.val := Nat.mod_eq_of_lt low.isLt
      rw [Group.text, List.singleton_append, decodeFrom_digit (by omega) hshift, if_pos low.isLt, hlow,
        add_mod_size hword (by omega), Group.number]
  | more low group ih =>
      -- there is another digit to come, so the bits of this one are below the top
      have hshift : shift + 5 ≤ 60 := by
        have hpos := group.digitCount_pos
        simp only [Group.digitCount] at hcount
        omega
      have hlow : (low.val + 32) % 32 = low.val := by omega
      have hpow : 2 ^ (shift + 5) = 32 * 2 ^ shift := by ring
      have hbits : low.val * 2 ^ shift + 2 ^ shift ≤ 2 ^ (shift + 5) := by
        rw [hpow, ← Nat.succ_mul]
        exact Nat.mul_le_mul_right _ low.isLt
      have htop : 2 ^ (shift + 5) < Word.size :=
        Nat.pow_lt_pow_right (by decide) (by omega : shift + 5 < 64)
      have hfits : low.val * 2 ^ shift % Word.size = low.val * 2 ^ shift := Nat.mod_eq_of_lt (by omega)
      have hsum : word + (low.val + 32 * group.number) * 2 ^ shift =
          word + low.val * 2 ^ shift + group.number * 2 ^ (shift + 5) := by
        rw [hpow]
        ring
      rw [Group.text, List.cons_append, decodeFrom_digit (by omega) (by omega), if_neg (by omega), hlow,
        hfits, ih (by omega) (by simp only [Group.digitCount] at hcount; omega), Group.number, hsum]

/-- What can be read is empty or begins with a group that there is room for. -/
theorem exists_text_of_decodeFrom {cs : List Char} {word shift : Nat} {values : List Int}
    (h : decodeFrom word shift cs = .ok values) :
    (cs = [] ∧ shift = 0) ∨
      ∃ (group : Group) (rest : List Char), cs = group.text ++ rest ∧
        shift + 5 * group.digitCount ≤ 65 := by
  induction cs generalizing word shift values with
  | nil =>
      by_cases hshift : shift = 0
      · exact Or.inl ⟨rfl, hshift⟩
      · rw [decodeFrom, if_neg hshift] at h
        cases h
  | cons c cs ih =>
      cases hdigit : digitValue? c with
      | none =>
          rw [decodeFrom, hdigit] at h
          cases h
      | some d =>
          obtain ⟨hd, rfl⟩ := digitChar_of_digitValue? hdigit
          by_cases hshift : shift ≤ 60
          · rw [decodeFrom_digit hd hshift] at h
            by_cases hlast : d < 32
            · exact Or.inr ⟨.last ⟨d, hlast⟩, cs, rfl, by simp only [Group.digitCount]; omega⟩
            · rw [if_neg hlast] at h
              rcases ih h with ⟨_, hzero⟩ | ⟨group, rest, rfl, hcount⟩
              · omega
              · refine Or.inr ⟨.more ⟨d - 32, by omega⟩ group, rest, ?_, ?_⟩
                · rw [Group.text, Nat.sub_add_cancel (by omega), List.cons_append]
                · simp only [Group.digitCount]
                  omega
          · rw [decodeFrom, hdigit] at h
            simp only [if_pos (Nat.lt_of_not_le hshift)] at h
            cases h

/-! ### Reading texts of groups -/

/-- Groups with room for all their digits are read one after the other. -/
theorem decode_flatMap_text {groups : List Group} (h : ∀ group ∈ groups, group.digitCount ≤ 13) :
    decode (groups.flatMap Group.text) =
      .ok (groups.map fun group => unzigzag (group.number % Word.size)) := by
  induction groups with
  | nil => rfl
  | cons group groups ih =>
      have hcount : 0 + 5 * group.digitCount ≤ 65 := by
        have := h group (by simp)
        omega
      have hrest := ih fun other hother => h other (by simp [hother])
      rw [decode] at hrest
      rw [List.flatMap_cons, decode, decodeFrom_text (by decide) hcount, hrest, pow_zero, mul_one,
        Nat.zero_add]
      rfl

/-- What can be read is a text of groups. -/
theorem exists_groups_of_decode {cs : List Char} {values : List Int} (h : decode cs = .ok values) :
    ∃ groups : List Group, cs = groups.flatMap Group.text ∧
      ∀ group ∈ groups, group.digitCount ≤ 13 := by
  -- the induction is on the length: what follows the first group is shorter
  induction hlength : cs.length using Nat.strongRecOn generalizing cs values with
  | ind length ih =>
      rw [decode] at h
      rcases exists_text_of_decodeFrom h with ⟨rfl, _⟩ | ⟨group, rest, rfl, hcount⟩
      · exact ⟨[], rfl, by simp⟩
      · rw [decodeFrom_text (by decide) hcount] at h
        cases hrest : decodeFrom 0 0 rest with
        | error fault =>
            rw [hrest] at h
            cases h
        | ok more =>
            have hshorter : rest.length < length := by
              have hpos := List.length_pos_of_ne_nil group.text_ne_nil
              rw [List.length_append] at hlength
              omega
            obtain ⟨groups, rfl, hgroups⟩ := ih rest.length hshorter hrest rfl
            refine ⟨group :: groups, List.flatMap_cons.symm, ?_⟩
            rw [List.forall_mem_cons]
            exact ⟨by omega, hgroups⟩

/-- **A text can be read exactly if it is one of groups of at most thirteen digits**, and each group is
read as its number without the bits beyond a word. -/
theorem decode_eq_ok_iff {cs : List Char} {values : List Int} :
    decode cs = .ok values ↔
      ∃ groups : List Group, cs = groups.flatMap Group.text ∧
        (∀ group ∈ groups, group.digitCount ≤ 13) ∧
        values = groups.map fun group => unzigzag (group.number % Word.size) := by
  constructor
  · intro h
    obtain ⟨groups, rfl, hcount⟩ := exists_groups_of_decode h
    rw [decode_flatMap_text hcount] at h
    exact ⟨groups, rfl, hcount, (Except.ok.inj h).symm⟩
  · rintro ⟨groups, rfl, hcount, rfl⟩
    exact decode_flatMap_text hcount

/-! ### One way to read a text -/

/-- A text begins with at most one group. -/
theorem text_append_inj {group other : Group} {rest more : List Char}
    (h : group.text ++ rest = other.text ++ more) : group = other ∧ rest = more := by
  induction group generalizing other with
  | last low =>
      cases other with
      | last low' =>
          obtain ⟨hchar, rfl⟩ := List.cons.inj h
          have hlow := eq_of_digitChar_eq (by omega) (by omega) hchar
          exact ⟨congrArg Group.last (Fin.ext hlow), rfl⟩
      | more low' other =>
          have hlow := eq_of_digitChar_eq (by omega) (by omega) (List.cons.inj h).1
          omega
  | more low group ih =>
      cases other with
      | last low' =>
          have hlow := eq_of_digitChar_eq (by omega) (by omega) (List.cons.inj h).1
          omega
      | more low' other =>
          obtain ⟨hchar, htail⟩ := List.cons.inj h
          have hlow := eq_of_digitChar_eq (by omega) (by omega) hchar
          obtain ⟨rfl, rfl⟩ := ih htail
          obtain rfl : low = low' := Fin.ext (by omega)
          exact ⟨rfl, rfl⟩

/-- **A text falls into groups in one way only.** -/
theorem flatMap_text_injective :
    Function.Injective fun groups : List Group => groups.flatMap Group.text := by
  intro groups
  induction groups with
  | nil =>
      intro others h
      cases others with
      | nil => rfl
      | cons other others => simp [other.text_ne_nil] at h
  | cons group groups ih =>
      intro others h
      cases others with
      | nil => simp [group.text_ne_nil] at h
      | cons other others =>
          simp only [List.flatMap_cons] at h
          obtain ⟨rfl, hrest⟩ := text_append_inj h
          rw [ih hrest]

/-! ### What a group denotes -/

theorem unzigzag_number (group : Group) : unzigzag group.number = group.value := by
  unfold unzigzag Group.value
  rcases Nat.mod_two_eq_zero_or_one group.number with h | h <;> simp [h]

/-- A number beyond a word loses a bit, and with it its magnitude. -/
theorem unzigzag_mod_size_iff (n : Nat) :
    unzigzag (n % Word.size) = unzigzag n ↔ n < Word.size := by
  constructor
  · intro h
    unfold unzigzag Word.size at *
    split_ifs at h <;> omega
  · intro h
    rw [Nat.mod_eq_of_lt h]

/-- **A group is read as what it denotes exactly if its number fits a word.**  What can be read is a text of
groups, one for each value, and nothing is read from the empty text only.  A text of groups of at most
thirteen digits that all fit is read as what they denote. -/
theorem decode_value_iff (cs : List Char) :
    (∀ values, decode cs = .ok values →
      (∃ groups : List Group, cs = groups.flatMap Group.text ∧
        List.Forall₂ (fun group value => value = group.value ↔ group.number < 2 ^ 64) groups values) ∧
      (cs ≠ [] → values ≠ [])) ∧
    ∀ groups : List Group, cs = groups.flatMap Group.text →
      (∀ group ∈ groups, group.digitCount ≤ 13 ∧ group.number < 2 ^ 64) →
      decode cs = .ok (groups.map Group.value) := by
  constructor
  · intro values h
    obtain ⟨groups, rfl, _, rfl⟩ := decode_eq_ok_iff.1 h
    refine ⟨⟨groups, rfl, ?_⟩, ?_⟩
    · rw [List.forall₂_map_right_iff, List.forall₂_same]
      intro group _
      rw [← unzigzag_number]
      exact unzigzag_mod_size_iff group.number
    · intro hne hnil
      rw [List.map_eq_nil_iff] at hnil
      exact hne (by rw [hnil]; rfl)
  · rintro groups rfl hgroups
    rw [decode_flatMap_text fun group hgroup => (hgroups group hgroup).1]
    congr 1
    refine List.map_congr_left ?_
    intro group hgroup
    rw [← unzigzag_number]
    exact (unzigzag_mod_size_iff group.number).2 (hgroups group hgroup).2

/-- A group of two digits, one of one digit, and the greatest number that fits a word. -/
theorem decode_value_iff_greatest :
    ∃ groups : List Group, "gBD////////////P".toList = groups.flatMap Group.text ∧
      (∀ group ∈ groups, group.digitCount ≤ 13 ∧ group.number < 2 ^ 64) ∧
      decode "gBD////////////P".toList = .ok [16, -1, -(2 ^ 63 - 1)] := by
  let widest : Group := .more 31 <| .more 31 <| .more 31 <| .more 31 <| .more 31 <| .more 31 <|
    .more 31 <| .more 31 <| .more 31 <| .more 31 <| .more 31 <| .more 31 <| .last 15
  let groups : List Group := [.more 0 (.last 1), .last 3, widest]
  have htext : "gBD////////////P".toList = groups.flatMap Group.text := by decide
  have hfits : ∀ group ∈ groups, group.digitCount ≤ 13 ∧ group.number < 2 ^ 64 := by decide
  have hvalues : groups.map Group.value = [16, -1, -(2 ^ 63 - 1)] := by decide +kernel
  refine ⟨groups, htext, hfits, ?_⟩
  rw [(decode_value_iff _).2 groups htext hfits, hvalues]

/-- Thirteen digits with only the topmost bit set are read as zero, though they denote `2 ^ 63`. -/
theorem decode_loses_top_bit :
    decode "ggggggggggggQ".toList = .ok [0] ∧
      ¬ ∃ groups : List Group, "ggggggggggggQ".toList = groups.flatMap Group.text ∧
        [0] = groups.map Group.value := by
  refine ⟨by decide, ?_⟩
  rintro ⟨groups, htext, hvalue⟩
  let top : Group := .more 0 <| .more 0 <| .more 0 <| .more 0 <| .more 0 <| .more 0 <| .more 0 <|
    .more 0 <| .more 0 <| .more 0 <| .more 0 <| .more 0 <| .last 16
  have htop : "ggggggggggggQ".toList = [top].flatMap Group.text := by decide
  obtain rfl : [top] = groups := flatMap_text_injective (htop.symm.trans htext)
  exact absurd hvalue (by decide)

end Inlay.Vlq
