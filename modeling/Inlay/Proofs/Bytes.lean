/-
**Texts as bytes.**

The bytes of a text are read back as that text, so replacing what is no text changes nothing in them.  The
bytes of other characters are never those of ASCII characters, so a text that is cut at one of these falls
into two texts.

Main definitions:

* `Inlay.Text.Utf8.IsText` — the bytes of a text.

Main results:

* `Inlay.Text.Utf8.decode_encode_chars` — **a text is read back from its bytes**;
* `Inlay.Text.Utf8.IsText.encode_ofBytes` — nothing is replaced in the bytes of a text;
* `Inlay.Text.Utf8.IsText.of_append_cons` — a text falls into texts at an ASCII character.
-/
import Inlay.Text.Utf8

set_option autoImplicit false

namespace Inlay.Text.Utf8

/-! ### Characters -/

theorem toNat_toUInt8 {n : Nat} (h : n < 256) : n.toUInt8.toNat = n := by
  simp [Nat.mod_eq_of_lt h]

theorem isValidChar_toNat (c : Char) : c.toNat < 0xd800 ∨ (0xdfff < c.toNat ∧ c.toNat < 0x110000) :=
  c.valid

/-- A byte that goes on with a character and ends it. -/
theorem decodeFrom_last {low high bits byte : Nat} (rest : List UInt8) (hbyte : byte < 256)
    (h : low ≤ byte ∧ byte ≤ high) :
    decodeFrom (some ⟨1, low, high, bits⟩) (byte.toUInt8 :: rest) =
      some (Char.ofNat (bits * 64 + (byte - 0x80))) :: decodeFrom none rest := by
  simp [decodeFrom, step, toNat_toUInt8 hbyte, h]

/-- A byte that goes on with a character. -/
theorem decodeFrom_more {owed low high bits byte : Nat} (rest : List UInt8) (hbyte : byte < 256)
    (h : low ≤ byte ∧ byte ≤ high) :
    decodeFrom (some ⟨owed + 2, low, high, bits⟩) (byte.toUInt8 :: rest) =
      decodeFrom (some ⟨owed + 1, 0x80, 0xbf, bits * 64 + (byte - 0x80)⟩) rest := by
  simp [decodeFrom, step, toNat_toUInt8 hbyte, h]

/-- A byte that begins a character of several bytes. -/
theorem decodeFrom_begin {byte : Nat} {begun : Begun} (rest : List UInt8) (hbyte : byte < 256)
    (h : begin? byte = some begun) (hhigh : 0x80 ≤ byte) :
    decodeFrom none (byte.toUInt8 :: rest) = decodeFrom (some begun) rest := by
  have hnot : ¬ byte < 0x80 := by omega
  simp [decodeFrom, step, start, toNat_toUInt8 hbyte, h, hnot]

/-- The first of three bytes; what may come next keeps the number above those of two bytes and off the
surrogates. -/
theorem exists_begin_three {n : Nat} (hlow : 0x800 ≤ n) (hhigh : n < 0x10000)
    (hvalid : n < 0xd800 ∨ (0xdfff < n ∧ n < 0x110000)) :
    ∃ low high, begin? (0xe0 + n / 0x1000) = some ⟨2, low, high, n / 0x1000⟩ ∧
      low ≤ 0x80 + n / 0x40 % 64 ∧ 0x80 + n / 0x40 % 64 ≤ high := by
  have hlead : n / 0x1000 < 16 := by omega
  by_cases hfirst : n / 0x1000 = 0
  · exact ⟨0xa0, 0xbf, by simp [begin?, hfirst], by omega, by omega⟩
  · by_cases hsurrogates : n / 0x1000 = 13
    · exact ⟨0x80, 0x9f, by simp [begin?, hsurrogates], by omega, by omega⟩
    · refine ⟨0x80, 0xbf, ?_, by omega, by omega⟩
      have hrange : 0xe1 ≤ 0xe0 + n / 0x1000 ∧ 0xe0 + n / 0x1000 ≤ 0xef := by omega
      have htwo : ¬ 0xe0 + n / 0x1000 ≤ 0xdf := by omega
      simp [begin?, hfirst, hrange, htwo, show ¬ 0xe0 + n / 0x1000 = 0xed by omega]

/-- The first of four bytes; what may come next keeps the number above those of three bytes and below the
greatest. -/
theorem exists_begin_four {n : Nat} (hlow : 0x10000 ≤ n) (hhigh : n < 0x110000) :
    ∃ low high, begin? (0xf0 + n / 0x40000) = some ⟨3, low, high, n / 0x40000⟩ ∧
      low ≤ 0x80 + n / 0x1000 % 64 ∧ 0x80 + n / 0x1000 % 64 ≤ high := by
  have hlead : n / 0x40000 < 5 := by omega
  by_cases hfirst : n / 0x40000 = 0
  · exact ⟨0x90, 0xbf, by simp [begin?, hfirst], by omega, by omega⟩
  · by_cases hlast : n / 0x40000 = 4
    · exact ⟨0x80, 0x8f, by simp [begin?, hlast], by omega, by omega⟩
    · refine ⟨0x80, 0xbf, ?_, by omega, by omega⟩
      have hrange : 0xf1 ≤ 0xf0 + n / 0x40000 ∧ 0xf0 + n / 0x40000 ≤ 0xf3 := by omega
      have htwo : ¬ 0xf0 + n / 0x40000 ≤ 0xdf := by omega
      have hthree : ¬ 0xf0 + n / 0x40000 ≤ 0xef := by omega
      simp [begin?, hfirst, hrange, htwo, hthree, show ¬ 0xf0 + n / 0x40000 = 0xe0 by omega,
        show ¬ 0xf0 + n / 0x40000 = 0xed by omega]

/-- A character is read back from its bytes. -/
theorem decodeFrom_encodeChar_append (c : Char) (rest : List UInt8) :
    decodeFrom none (encodeChar c ++ rest) = some c :: decodeFrom none rest := by
  have hvalid := isValidChar_toNat c
  have hback : Char.ofNat c.toNat = c := Char.ofNat_toNat c
  unfold encodeChar
  generalize c.toNat = n at hvalid hback
  dsimp only
  split
  next h => simp [decodeFrom, step, start, toNat_toUInt8 (show n < 256 by omega), h, hback]
  next h₁ =>
    split
    next h₂ =>
      have hbegin : begin? (0xc0 + n / 0x40) = some ⟨1, 0x80, 0xbf, n / 0x40⟩ := by
        have hrange : 0xc2 ≤ 0xc0 + n / 0x40 ∧ 0xc0 + n / 0x40 ≤ 0xdf := by omega
        simp [begin?, hrange]
      have hbits : n / 0x40 * 64 + (0x80 + n / 1 % 64 - 0x80) = n := by omega
      rw [List.cons_append, List.cons_append, List.nil_append,
        decodeFrom_begin _ (by omega) hbegin (by omega), decodeFrom_last _ (by omega) (by omega),
        hbits, hback]
    next h₂ =>
      split
      next h₃ =>
        obtain ⟨low, high, hbegin, hsecond⟩ := exists_begin_three (by omega) h₃ hvalid
        have hbits : (n / 0x1000 * 64 + (0x80 + n / 0x40 % 64 - 0x80)) * 64
            + (0x80 + n / 1 % 64 - 0x80) = n := by omega
        rw [List.cons_append, List.cons_append, List.cons_append, List.nil_append,
          decodeFrom_begin _ (by omega) hbegin (by omega), decodeFrom_more _ (by omega) hsecond,
          decodeFrom_last _ (by omega) (by omega), hbits, hback]
      next h₃ =>
        obtain ⟨low, high, hbegin, hsecond⟩ := exists_begin_four (n := n) (by omega) (by omega)
        have hbits : ((n / 0x40000 * 64 + (0x80 + n / 0x1000 % 64 - 0x80)) * 64
            + (0x80 + n / 0x40 % 64 - 0x80)) * 64 + (0x80 + n / 1 % 64 - 0x80) = n := by omega
        rw [List.cons_append, List.cons_append, List.cons_append, List.cons_append, List.nil_append,
          decodeFrom_begin _ (by omega) hbegin (by omega), decodeFrom_more _ (by omega) hsecond,
          decodeFrom_more _ (by omega) (by omega), decodeFrom_last _ (by omega) (by omega), hbits, hback]

/-- Other characters than those of ASCII have no bytes of these. -/
theorem encodeChar_cases (c : Char) :
    (c.toNat < 0x80 ∧ encodeChar c = [c.toNat.toUInt8]) ∨ ∀ byte ∈ encodeChar c, 0x80 ≤ byte.toNat := by
  have hvalid := isValidChar_toNat c
  unfold encodeChar
  generalize c.toNat = n at hvalid
  dsimp only
  split
  next h => exact Or.inl ⟨h, rfl⟩
  next h =>
    right
    intro byte hbyte
    split at hbyte
    next h₂ =>
      simp only [List.mem_cons, List.not_mem_nil, or_false] at hbyte
      rcases hbyte with rfl | rfl <;> rw [toNat_toUInt8 (by omega)] <;> omega
    next h₂ =>
      split at hbyte
      next h₃ =>
        simp only [List.mem_cons, List.not_mem_nil, or_false] at hbyte
        rcases hbyte with rfl | rfl | rfl <;> rw [toNat_toUInt8 (by omega)] <;> omega
      next h₃ =>
        simp only [List.mem_cons, List.not_mem_nil, or_false] at hbyte
        rcases hbyte with rfl | rfl | rfl | rfl <;> rw [toNat_toUInt8 (by omega)] <;> omega

/-! ### Texts -/

@[simp] theorem encode_nil : encode [] = [] := rfl

@[simp] theorem encode_cons (c : Char) (cs : List Char) : encode (c :: cs) = encodeChar c ++ encode cs :=
  rfl

@[simp] theorem encode_append (front back : List Char) :
    encode (front ++ back) = encode front ++ encode back :=
  List.flatMap_append

/-- **A text is read back from its bytes.** -/
theorem decode_encode_chars (cs : List Char) : decode (encode cs) = cs.map some := by
  induction cs with
  | nil => rfl
  | cons c cs ih => rw [encode_cons, decode, decodeFrom_encodeChar_append, ← decode, ih, List.map_cons]

@[simp] theorem ofBytes_encode (text : String) : ofBytes (encode text.toList) = text := by
  simp [ofBytes, decode_encode_chars, Function.comp_def]

/-- The character of an ASCII byte of a text is in the text. -/
theorem mem_of_mem_encode {byte : UInt8} {cs : List Char} (hbyte : byte.toNat < 0x80)
    (h : byte ∈ encode cs) : Char.ofNat byte.toNat ∈ cs := by
  obtain ⟨c, hc, hmem⟩ := List.mem_flatMap.1 h
  rcases encodeChar_cases c with ⟨hascii, hbytes⟩ | hhigh
  · rw [hbytes, List.mem_singleton] at hmem
    rw [hmem, toNat_toUInt8 (by omega), Char.ofNat_toNat]
    exact hc
  · have hnot := hhigh byte hmem
    omega

/-- Whether bytes are those of a text. -/
def IsText (bytes : List UInt8) : Prop :=
  ∃ text : String, bytes = encode text.toList

theorem isText_encode (cs : List Char) : IsText (encode cs) :=
  ⟨String.ofList cs, by rw [String.toList_ofList]⟩

theorem isText_encodeChar (c : Char) : IsText (encodeChar c) :=
  ⟨String.ofList [c], by simp⟩

/-- Nothing is replaced in the bytes of a text. -/
theorem IsText.encode_ofBytes {bytes : List UInt8} (h : IsText bytes) :
    encode (ofBytes bytes).toList = bytes := by
  obtain ⟨text, rfl⟩ := h
  rw [ofBytes_encode]

theorem IsText.append {front back : List UInt8} (hfront : IsText front) (hback : IsText back) :
    IsText (front ++ back) := by
  obtain ⟨text, rfl⟩ := hfront
  obtain ⟨more, rfl⟩ := hback
  rw [← encode_append]
  exact isText_encode _

/-- A text falls into two texts at an ASCII character. -/
theorem IsText.of_append_cons {front back : List UInt8} {byte : UInt8} (hbyte : byte.toNat < 0x80)
    (h : IsText (front ++ byte :: back)) : IsText front ∧ IsText back := by
  obtain ⟨text, h⟩ := h
  generalize text.toList = cs at h
  induction cs generalizing front with
  | nil => simp at h
  | cons c cs ih =>
      rw [encode_cons] at h
      rcases List.append_eq_append_iff.1 h with ⟨more, hchar, hrest⟩ | ⟨more, hfront, hrest⟩
      · -- the byte is in the first character, so it is that character
        cases more with
        | nil =>
            rw [List.append_nil] at hchar
            obtain ⟨-, hback⟩ := @ih [] hrest
            exact ⟨hchar ▸ isText_encodeChar c, hback⟩
        | cons b more =>
            obtain ⟨rfl, rfl⟩ := List.cons.inj hrest
            rcases encodeChar_cases c with ⟨-, hbytes⟩ | hhigh
            · rw [hbytes] at hchar
              obtain ⟨rfl, rfl⟩ : front = [] ∧ more = [] := by
                cases front with
                | nil => exact ⟨rfl, (List.cons.inj hchar).2.symm⟩
                | cons d front => simp at hchar
              exact ⟨⟨"", rfl⟩, isText_encode cs⟩
            · have hnot := hhigh byte (by simp [hchar])
              omega
      · obtain ⟨hmore, hback⟩ := ih hrest.symm
        exact ⟨hfront ▸ (isText_encodeChar c).append hmore, hback⟩

end Inlay.Text.Utf8
