/-
**Rows and columns of a text.**

The line index finds rows by the byte offsets of newlines and cuts the text at byte offsets.  This module
says what it finds in terms of the text itself: the rows are the pieces between newlines, and the
location of a place is the number of newlines before it with the UTF-16 length of what follows the last
of them.

Main definitions:

* `Inlay.Text.StartsRow` — a front of a text after which a row starts.

Main results:

* `Inlay.Text.sliceBytes_append`, `Inlay.Text.sliceBytes_eq_some_iff` — cutting out the middle of three
  parts;
* `Inlay.Text.charAtUnit_append_right`, `Inlay.Text.charAtUnit_append_left` — the character at a column
  of a text in two parts;
* `Inlay.LineIndex.lineText_ofText` — **the rows of a text are its pieces between newlines**;
* `Inlay.LineIndex.lineCount_ofText` — and there are as many;
* `Inlay.LineIndex.locate_ofText` — **the location of a place between two parts of a text**.
-/
import Inlay.Host
import Inlay.Proofs.Split

set_option autoImplicit false

namespace Inlay

namespace Text

/-! ### Bytes of a text -/

theorem utf8ByteSize_ofList (cs : List Char) : (String.ofList cs).utf8ByteSize = utf8Length cs := by
  induction cs with
  | nil => rfl
  | cons c cs ih =>
      have hcons : String.ofList (c :: cs) = String.singleton c ++ String.ofList cs := by
        rw [String.singleton_eq_ofList, ← String.ofList_append, List.singleton_append]
      rw [hcons, String.utf8ByteSize_append, String.utf8ByteSize_singleton, ih, utf8Length_cons]

theorem utf8ByteSize_eq (text : String) : text.utf8ByteSize = utf8Length text.toList := by
  rw [← utf8ByteSize_ofList, String.ofList_toList]

/-! ### Cuts at byte offsets -/

/-- A cut behind the first character is a cut in the rest. -/
theorem dropBytes_cons_add (c : Char) (n : Nat) (cs : List Char) :
    dropBytes (c.utf8Size + n) (c :: cs) = dropBytes n cs := by
  obtain ⟨size, hsize⟩ := Nat.exists_eq_add_one.2 c.utf8Size_pos
  have hsum : c.utf8Size + n = size + n + 1 := by omega
  rw [hsum, dropBytes, if_pos (by omega), ← hsum, Nat.add_sub_cancel_left]

theorem takeBytes_cons_add (c : Char) (n : Nat) (cs : List Char) :
    takeBytes (c.utf8Size + n) (c :: cs) = (takeBytes n cs).map (c :: ·) := by
  obtain ⟨size, hsize⟩ := Nat.exists_eq_add_one.2 c.utf8Size_pos
  have hsum : c.utf8Size + n = size + n + 1 := by omega
  rw [hsum, takeBytes, if_pos (by omega), ← hsum, Nat.add_sub_cancel_left]

theorem dropBytes_append (front back : List Char) :
    dropBytes (utf8Length front) (front ++ back) = some back := by
  induction front with
  | nil => rw [utf8Length_nil, List.nil_append, dropBytes]
  | cons c front ih => rw [utf8Length_cons, List.cons_append, dropBytes_cons_add, ih]

theorem takeBytes_append (front back : List Char) :
    takeBytes (utf8Length front) (front ++ back) = some front := by
  induction front with
  | nil => rw [utf8Length_nil, List.nil_append, takeBytes]
  | cons c front ih =>
      rw [utf8Length_cons, List.cons_append, takeBytes_cons_add, ih, Option.map_some]

/-- What comes before a cut is as long as the cut says. -/
theorem exists_of_takeBytes {n : Nat} {cs front : List Char} (h : takeBytes n cs = some front) :
    ∃ back, cs = front ++ back ∧ utf8Length front = n := by
  fun_induction takeBytes n cs generalizing front with
  | case1 cs =>
      obtain rfl := Option.some.inj h
      exact ⟨cs, rfl, rfl⟩
  | case2 => cases h
  | case3 n c cs hle ih =>
      obtain ⟨tail, htail, rfl⟩ := Option.map_eq_some_iff.1 h
      obtain ⟨back, rfl, hlength⟩ := ih htail
      exact ⟨back, rfl, by rw [utf8Length_cons]; omega⟩
  | case4 => cases h

theorem exists_of_dropBytes {n : Nat} {cs back : List Char} (h : dropBytes n cs = some back) :
    ∃ front, cs = front ++ back ∧ utf8Length front = n := by
  fun_induction dropBytes n cs with
  | case1 cs =>
      obtain rfl := Option.some.inj h
      exact ⟨[], rfl, rfl⟩
  | case2 => cases h
  | case3 n c cs hle ih =>
      obtain ⟨front, rfl, hlength⟩ := ih h
      exact ⟨c :: front, rfl, by rw [utf8Length_cons]; omega⟩
  | case4 => cases h

/-- Cutting out the middle of three parts. -/
theorem sliceBytes_append (front middle back : List Char) :
    sliceBytes (utf8Length front) (utf8Length front + utf8Length middle)
      (front ++ (middle ++ back)) = some middle := by
  rw [sliceBytes, if_pos (Nat.le_add_right _ _), dropBytes_append, Option.bind_some,
    Nat.add_sub_cancel_left, takeBytes_append]

/-- What stands between two cuts. -/
theorem sliceBytes_eq_some_iff {start stop : Nat} {cs middle : List Char} :
    sliceBytes start stop cs = some middle ↔
      ∃ front back, cs = front ++ (middle ++ back) ∧ utf8Length front = start ∧
        utf8Length front + utf8Length middle = stop := by
  constructor
  · intro h
    rw [sliceBytes] at h
    split at h
    · next hle =>
        obtain ⟨rest, hrest, hmiddle⟩ := Option.bind_eq_some_iff.1 h
        obtain ⟨front, rfl, hfront⟩ := exists_of_dropBytes hrest
        obtain ⟨back, rfl, hlength⟩ := exists_of_takeBytes hmiddle
        exact ⟨front, back, rfl, hfront, by omega⟩
    · cases h
  · rintro ⟨front, back, rfl, rfl, rfl⟩
    exact sliceBytes_append front middle back

/-! ### Characters at columns -/

theorem charAtUnit_append_right (front back : List Char) (column : Nat) :
    charAtUnit (front ++ back) (utf16Length front + column) = charAtUnit back column := by
  induction front with
  | nil => simp
  | cons c front ih =>
      have hge : ¬ units16 c + utf16Length front + column < units16 c := by omega
      have hsub : units16 c + utf16Length front + column - units16 c =
          utf16Length front + column := by omega
      rw [List.cons_append, charAtUnit, utf16Length_cons, if_neg hge, hsub, ih]

theorem charAtUnit_append_left {front : List Char} {column : Nat}
    (h : column < utf16Length front) (back : List Char) :
    charAtUnit (front ++ back) column = charAtUnit front column := by
  induction front generalizing column with
  | nil => simp at h
  | cons c front ih =>
      rw [List.cons_append, charAtUnit, charAtUnit]
      split
      · rfl
      · rw [utf16Length_cons] at h
        exact ih (by omega)

/-- Every column of a text is covered by a character. -/
theorem exists_charAtUnit {cs : List Char} {column : Nat} (h : column < utf16Length cs) :
    ∃ c, charAtUnit cs column = some c := by
  induction cs generalizing column with
  | nil => simp at h
  | cons c cs ih =>
      rw [charAtUnit]
      split
      · exact ⟨c, rfl⟩
      · rw [utf16Length_cons] at h
        exact ih (by omega)

/-! ### Rows -/

/-- Whether a row starts behind a front of a text. -/
def StartsRow (front : List Char) : Prop :=
  front = [] ∨ ∃ body, front = body ++ ['\n']

/-- The row of a place starts behind the newlines in front of the place. -/
theorem exists_rowStart (front : List Char) :
    ∃ before, front = before ++ lastPiece '\n' front ∧ StartsRow before ∧
      before.count '\n' = front.count '\n' ∧
      utf8Length front = utf8Length before + utf8Length (lastPiece '\n' front) := by
  obtain ⟨before, hfront, hstart, hlast⟩ := exists_eq_append_lastPiece '\n' front
  refine ⟨before, hfront, hstart, ?_, ?_⟩
  · conv_rhs => rw [hfront, List.count_append, List.count_eq_zero_of_not_mem hlast]
    rfl
  · conv_lhs => rw [hfront, utf8Length_append]

/-- Where a row of a text stands: what is in front of it, and what is behind it. -/
theorem exists_row {cs row : List Char} {number : Nat} (h : (split '\n' cs)[number]? = some row) :
    ∃ front back, cs = front ++ (row ++ back) ∧ StartsRow front ∧ front.count '\n' = number ∧
      '\n' ∉ row ∧ (back = [] ∨ ∃ rest, back = '\n' :: rest) := by
  induction cs using separated_induction '\n' generalizing number with
  | last piece hpiece =>
      rw [split_of_notMem hpiece] at h
      obtain ⟨rfl, rfl⟩ : number = 0 ∧ piece = row := by
        cases number with
        | zero => exact ⟨rfl, by simpa using h⟩
        | succ number => simp at h
      exact ⟨[], [], by simp, Or.inl rfl, rfl, hpiece, Or.inl rfl⟩
  | step piece rest hpiece ih =>
      rw [split_append_cons hpiece] at h
      cases number with
      | zero =>
          obtain rfl : piece = row := by simpa using h
          exact ⟨[], '\n' :: rest, rfl, Or.inl rfl, rfl, hpiece, Or.inr ⟨rest, rfl⟩⟩
      | succ number =>
          obtain ⟨front, back, rfl, hstart, hcount, hrow, hback⟩ := ih (by simpa using h)
          refine ⟨piece ++ '\n' :: front, back, by simp, Or.inr ?_, ?_, hrow, hback⟩
          · rcases hstart with rfl | ⟨body, rfl⟩
            · exact ⟨piece, rfl⟩
            · exact ⟨piece ++ '\n' :: body, by simp⟩
          · rw [List.count_append, List.count_cons_self, hcount,
              List.count_eq_zero_of_not_mem hpiece]
            omega

end Text

namespace LineIndex

open Text

/-! ### Breaks -/

theorem breaksFrom_append (offset : Nat) (front back : List Char) :
    breaksFrom offset (front ++ back) =
      breaksFrom offset front ++ breaksFrom (offset + utf8Length front) back := by
  induction front generalizing offset with
  | nil => simp [breaksFrom]
  | cons c front ih =>
      rw [List.cons_append, breaksFrom, breaksFrom, ih, utf8Length_cons, Nat.add_assoc]
      split <;> rfl

theorem length_breaksFrom (offset : Nat) (cs : List Char) :
    (breaksFrom offset cs).length = cs.count '\n' := by
  induction cs generalizing offset with
  | nil => rfl
  | cons c cs ih =>
      rw [breaksFrom]
      split
      · next hc => rw [List.length_cons, ih, hc, List.count_cons_self]
      · next hc => rw [ih, List.count_cons_of_ne hc]

theorem breaksFrom_of_notMem {cs : List Char} (h : '\n' ∉ cs) (offset : Nat) :
    breaksFrom offset cs = [] := by
  rw [← List.length_eq_zero_iff, length_breaksFrom, List.count_eq_zero_of_not_mem h]

/-- Breaks lie inside the text that they break. -/
theorem bounds_of_mem_breaksFrom {offset brk : Nat} {cs : List Char}
    (h : brk ∈ breaksFrom offset cs) : offset ≤ brk ∧ brk < offset + utf8Length cs := by
  induction cs generalizing offset with
  | nil => simp [breaksFrom] at h
  | cons c cs ih =>
      have hpos := c.utf8Size_pos
      have htail : brk ∈ breaksFrom (offset + c.utf8Size) cs → offset ≤ brk ∧
          brk < offset + utf8Length (c :: cs) := by
        intro hmem
        have := ih hmem
        rw [utf8Length_cons]
        omega
      rw [breaksFrom] at h
      split at h
      · rcases List.mem_cons.1 h with rfl | h
        · rw [utf8Length_cons]
          omega
        · exact htail h
      · exact htail h

/-! ### Rows -/

section Parts

variable {text : String} {front back : List Char}

theorem breaks_ofText (h : text.toList = front ++ back) :
    (ofText text).breaks = breaksFrom 0 front ++ breaksFrom (utf8Length front) back := by
  rw [ofText, h, breaksFrom_append, Nat.zero_add]

/-- The row that starts behind a front starts at its length. -/
theorem lineStart_ofText (h : text.toList = front ++ back) (hstart : StartsRow front) :
    (ofText text).lineStart (front.count '\n') = some (utf8Length front) := by
  rcases hstart with rfl | ⟨body, rfl⟩
  · rfl
  · have hbreaks := breaks_ofText h
    rw [breaksFrom_append, List.append_assoc] at hbreaks
    rw [List.count_append, List.count_singleton_self, lineStart, hbreaks,
      List.getElem?_append_right (Nat.le_of_eq (length_breaksFrom ..)), length_breaksFrom,
      Nat.sub_self]
    simp [breaksFrom, show ('\n' : Char).utf8Size = 1 from rfl]

/-- The row behind a front ends before the next newline. -/
theorem lineEnd_ofText {row : List Char} (h : text.toList = front ++ (row ++ back))
    (hrow : '\n' ∉ row) (hback : back = [] ∨ ∃ rest, back = '\n' :: rest) :
    (ofText text).lineEnd (front.count '\n') = some (utf8Length front + utf8Length row) := by
  have hbreaks := breaks_ofText h
  rw [breaksFrom_append, breaksFrom_of_notMem hrow, List.nil_append] at hbreaks
  have hlt : front.count '\n' < (ofText text).lineCount := by
    rw [lineCount, hbreaks, List.length_append, length_breaksFrom]
    omega
  rw [lineEnd, if_pos hlt, hbreaks,
    List.getElem?_append_right (Nat.le_of_eq (length_breaksFrom ..)), length_breaksFrom,
    Nat.sub_self]
  rcases hback with rfl | ⟨rest, rfl⟩
  · simp [breaksFrom, ofText, h]
  · simp [breaksFrom]

end Parts

theorem lineCount_ofText (text : String) :
    (ofText text).lineCount = (split '\n' text.toList).length := by
  rw [lineCount, ofText, length_breaksFrom, length_split]

/-- **The rows of a text are its pieces between newlines.** -/
theorem lineText_ofText (text : String) (row : Nat) :
    (ofText text).lineText row text = ((split '\n' text.toList)[row]?).map String.ofList := by
  cases h : (split '\n' text.toList)[row]? with
  | none =>
      have hlen : ¬ row < (ofText text).lineCount := by
        rw [lineCount_ofText]
        exact Nat.not_lt.2 (List.getElem?_eq_none_iff.1 h)
      have hend : (ofText text).lineEnd row = none := by rw [lineEnd, if_neg hlen]
      simp [lineText, hend]
  | some line =>
      obtain ⟨front, back, htext, hstart, hcount, hrow, hback⟩ := exists_row h
      rw [lineText, ← hcount, lineStart_ofText htext hstart, lineEnd_ofText htext hrow hback]
      simp only [htext, sliceBytes_append]

/-! ### Locations -/

/-- The row of an offset is where a search for the offset among the newlines ends: those in front are before
the offset, and those behind are not. -/
theorem rowOf_of_append {index : LineIndex} {offset : Nat} {before after : List Nat}
    (h : index.breaks = before ++ after) (hbefore : ∀ brk ∈ before, brk < offset)
    (hafter : ∀ brk ∈ after, offset ≤ brk) : index.rowOf offset = before.length := by
  have hfront : ∀ brk ∈ before, decide (brk < offset) = true := fun brk hbrk =>
    decide_eq_true (hbefore brk hbrk)
  have hback : after.takeWhile (fun brk => decide (brk < offset)) = [] := by
    cases after with
    | nil => rfl
    | cons brk rest =>
        have := hafter brk (by simp)
        exact List.takeWhile_cons_of_neg (by simp; omega)
  rw [rowOf, h, List.takeWhile_append_of_pos hfront, hback, List.append_nil]

/-- The rows before a place are counted by the newlines before it. -/
theorem rowOf_ofText {text : String} {front back : List Char} (h : text.toList = front ++ back) :
    (ofText text).rowOf (utf8Length front) = front.count '\n' := by
  rw [rowOf_of_append (breaks_ofText h), length_breaksFrom]
  · intro brk hbrk
    have := bounds_of_mem_breaksFrom hbrk
    omega
  · intro brk hbrk
    exact (bounds_of_mem_breaksFrom hbrk).1

/-- **The location of a place between two parts of a text**: the newlines before it, and the UTF-16
length of what follows the last of them. -/
theorem locate_ofText {text : String} {front back : List Char} (h : text.toList = front ++ back) :
    (ofText text).locate (utf8Length front) text =
      some { offset := utf8Length front, row := front.count '\n',
             column := utf16Length (lastPiece '\n' front) } := by
  have hle : utf8Length front ≤ (ofText text).length := by
    simp only [ofText, h, utf8Length_append]
    omega
  obtain ⟨start, hfront, hstart, hcount, hlen⟩ := exists_rowStart front
  have htext : text.toList = start ++ (lastPiece '\n' front ++ back) := by
    rw [← List.append_assoc, ← hfront, h]
  rw [locate, if_pos hle, rowOf_ofText h, ← hcount, lineStart_ofText htext hstart]
  simp only [htext, hlen, sliceBytes_append, Option.map_some]

end LineIndex

end Inlay
