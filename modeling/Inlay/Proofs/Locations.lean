/-
**Where offsets lie, and what stands there.**

`Inlay/Proofs/LineIndex.lean` finds the location of a place between two parts of a text.  Every offset that
has a location is such a place, so the locations of a text are known altogether: which offsets have one,
what it says, and that locations come in the order of their offsets.  A location can be read back in three
ways, which were written without each other: the column of a byte of a row, the character that covers a
column of a row, and the rows themselves, which joined by newlines are the text.

Main results:

* `Inlay.Text.isValid_iff_exists_parts` — an offset lies between two characters exactly if it cuts the text
  in two;
* `Inlay.Text.precedes_append` — a place further on has a greater row, or the same row and a greater column;
* `Inlay.LineIndex.locate_eq_some_iff` — the offsets with a location;
* `Inlay.LineIndex.locate_exactly` — **which offsets have a location, what it says, and the order of
  locations**;
* `Inlay.LineIndex.getElem?_split_lastPiece` — the row of a place;
* `Inlay.LineIndex.readers_agree` — **the rows make up the text, and the readers of positions agree**.
-/
import Inlay.Proofs.Host
import Mathlib.Data.List.DropRight
import Mathlib.Data.String.Basic

set_option autoImplicit false

namespace Inlay

namespace Text

/-! ### Places between characters -/

/-- An offset lies between two characters exactly if it cuts the text in two. -/
theorem isValid_iff_exists_parts {text : String} {offset : Nat} :
    String.Pos.Raw.IsValid text ⟨offset⟩ ↔
      ∃ front back, text.toList = front ++ back ∧ utf8Length front = offset := by
  rw [String.Pos.Raw.isValid_iff_exists_append]
  constructor
  · rintro ⟨front, back, rfl, hoffset⟩
    refine ⟨front.toList, back.toList, String.toList_append, ?_⟩
    rw [← utf8ByteSize_eq]
    exact (congrArg String.Pos.Raw.byteIdx hoffset).symm
  · rintro ⟨front, back, htext, rfl⟩
    refine ⟨String.ofList front, String.ofList back, ?_, ?_⟩
    · rw [← String.ofList_append, ← htext, String.ofList_toList]
    · rw [← utf8ByteSize_ofList]
      rfl

/-- The character at a place is the first one behind it. -/
theorem get?_of_parts {text : String} {front back : List Char} (h : text.toList = front ++ back) :
    String.Pos.Raw.get? text ⟨utf8Length front⟩ = back.head? := by
  have hlength : utf8Length front = String.utf8Len front := by
    rw [← utf8ByteSize_ofList, String.utf8ByteSize_ofList]
  rw [hlength, ← String.get?_of_valid, ← h, String.ofList_toList]

/-- The last piece of a text is what follows its last newline. -/
theorem lastPiece_eq_rtakeWhile (cs : List Char) :
    lastPiece '\n' cs = cs.rtakeWhile (· ≠ '\n') := by
  obtain ⟨front, heq, hfront, hlast⟩ := exists_eq_append_lastPiece '\n' cs
  have hall : ∀ c ∈ (lastPiece '\n' cs).reverse, decide (c ≠ '\n') = true := by
    intro c hc
    refine decide_eq_true ?_
    rintro rfl
    exact hlast (List.mem_reverse.1 hc)
  conv_rhs => rw [heq]
  rw [List.rtakeWhile, List.reverse_append, List.takeWhile_append_of_pos hall]
  rcases hfront with rfl | ⟨body, rfl⟩ <;> simp

/-! ### The order of places -/

/-- A place further on has a greater row, or the same row and a greater column. -/
theorem precedes_append {front middle : List Char} (h : middle ≠ []) :
    front.count '\n' < (front ++ middle).count '\n' ∨
      front.count '\n' = (front ++ middle).count '\n' ∧
        utf16Length (lastPiece '\n' front) < utf16Length (lastPiece '\n' (front ++ middle)) := by
  rw [List.count_append]
  by_cases hmem : '\n' ∈ middle
  · have := List.count_pos_iff.2 hmem
    exact Or.inl (by omega)
  · -- both places are in one row, and the characters between them take up columns
    obtain ⟨c, rest, rfl⟩ := List.exists_cons_of_ne_nil h
    have hlast : lastPiece '\n' (front ++ c :: rest) = lastPiece '\n' front ++ c :: rest := by
      rw [lastPiece, split_append, split_of_notMem hmem, firstPiece, split_of_notMem hmem]
      simp
    have hpos := units16_pos c
    refine Or.inr ⟨by rw [List.count_eq_zero_of_not_mem hmem, Nat.add_zero], ?_⟩
    rw [hlast, utf16Length_append, utf16Length_cons]
    omega

/-- Of two places of a text, the one with the smaller offset is in front. -/
theorem exists_append_of_utf8Length_lt {front back front' back' : List Char}
    (h : front ++ back = front' ++ back') (hlt : utf8Length front < utf8Length front') :
    ∃ middle, middle ≠ [] ∧ front' = front ++ middle := by
  rcases List.append_eq_append_iff.1 h with ⟨middle, rfl, _⟩ | ⟨middle, rfl, _⟩
  · refine ⟨middle, ?_, rfl⟩
    rintro rfl
    rw [List.append_nil] at hlt
    omega
  · rw [utf8Length_append] at hlt
    omega

end Text

namespace LineIndex

open Text

/-! ### Locations -/

/-- The offsets with a location are those that cut the text in two. -/
theorem locate_eq_some_iff {text : String} {offset : Nat} {location : Location} :
    (ofText text).locate offset text = some location ↔
      ∃ front back, text.toList = front ++ back ∧ utf8Length front = offset ∧
        location = { offset, row := front.count '\n', column := utf16Length (lastPiece '\n' front) } := by
  constructor
  · intro h
    have hparts : ∃ front back, text.toList = front ++ back ∧ utf8Length front = offset := by
      rw [locate] at h
      split at h
      · split at h
        · cases h
        · obtain ⟨middle, hmiddle, _⟩ := Option.map_eq_some_iff.1 h
          obtain ⟨front, back, htext, _, hlength⟩ := sliceBytes_eq_some_iff.1 hmiddle
          exact ⟨front ++ middle, back, by rw [htext, List.append_assoc],
            by rw [utf8Length_append]; exact hlength⟩
      · cases h
    obtain ⟨front, back, htext, rfl⟩ := hparts
    rw [locate_ofText htext] at h
    exact ⟨front, back, htext, rfl, (Option.some.inj h).symm⟩
  · rintro ⟨front, back, htext, rfl, rfl⟩
    exact locate_ofText htext

/-- Locations come in the order of their offsets. -/
theorem precedes_of_lt {text : String} {offset offset' : Nat} {location location' : Location}
    (h : (ofText text).locate offset text = some location)
    (h' : (ofText text).locate offset' text = some location') (hlt : offset < offset') :
    location.row < location'.row ∨
      location.row = location'.row ∧ location.column < location'.column := by
  obtain ⟨front, back, htext, rfl, rfl⟩ := locate_eq_some_iff.1 h
  obtain ⟨front', back', htext', rfl, rfl⟩ := locate_eq_some_iff.1 h'
  obtain ⟨middle, hmiddle, rfl⟩ := exists_append_of_utf8Length_lt (htext.symm.trans htext') hlt
  exact precedes_append hmiddle

/-- **Which offsets have a location, what it says, and the order of locations.**  An offset has one exactly
if it is not beyond the end and lies between two characters.  The row is the number of newlines in front,
and the column the UTF-16 length of what follows the last of them; ordered by row and then column, locations
come in the order of their offsets. -/
theorem locate_exactly (text : String) :
    (∀ offset, (∃ location, (ofText text).locate offset text = some location) ↔
      offset ≤ text.utf8ByteSize ∧ String.Pos.Raw.IsValid text ⟨offset⟩) ∧
    (∀ offset location, (ofText text).locate offset text = some location →
      ∃ front back : String, text = front ++ back ∧ front.utf8ByteSize = offset ∧
        location.offset = offset ∧ location.row = front.toList.count '\n' ∧
        location.column = utf16Length (front.toList.rtakeWhile (· ≠ '\n'))) ∧
    ∀ offset offset' location location', (ofText text).locate offset text = some location →
      (ofText text).locate offset' text = some location' →
      (offset < offset' ↔ location.row < location'.row ∨
        location.row = location'.row ∧ location.column < location'.column) := by
  refine ⟨?_, ?_, ?_⟩
  · intro offset
    constructor
    · rintro ⟨location, hlocation⟩
      obtain ⟨front, back, htext, hoffset, _⟩ := locate_eq_some_iff.1 hlocation
      refine ⟨?_, isValid_iff_exists_parts.2 ⟨front, back, htext, hoffset⟩⟩
      rw [utf8ByteSize_eq, htext, utf8Length_append]
      omega
    · rintro ⟨_, hvalid⟩
      obtain ⟨front, back, htext, rfl⟩ := isValid_iff_exists_parts.1 hvalid
      exact ⟨_, locate_ofText htext⟩
  · intro offset location hlocation
    obtain ⟨front, back, htext, rfl, rfl⟩ := locate_eq_some_iff.1 hlocation
    refine ⟨String.ofList front, String.ofList back, ?_, utf8ByteSize_ofList front, rfl, ?_, ?_⟩
    · rw [← String.ofList_append, ← htext, String.ofList_toList]
    · rw [String.toList_ofList]
    · rw [String.toList_ofList, ← lastPiece_eq_rtakeWhile]
  · intro offset offset' location location' h h'
    constructor
    · exact precedes_of_lt h h'
    · intro hprecedes
      by_contra hle
      rcases Nat.lt_or_eq_of_le (Nat.le_of_not_lt hle) with hlt | heq
      · have := precedes_of_lt h' h hlt
        omega
      · -- one offset has one location
        subst heq
        obtain rfl := Option.some.inj (h.symm.trans h')
        omega

/-- A newline behind a character of two units, the place behind it, and an offset inside the character. -/
theorem locate_exactly_surrogate :
    ∃ (text : String) (location location' : Location), text = "🎉\né" ∧
      (ofText text).locate 4 text = some location ∧ (ofText text).locate 5 text = some location' ∧
      (location.row < location'.row ∨
        location.row = location'.row ∧ location.column < location'.column) ∧
      ¬ String.Pos.Raw.IsValid text ⟨2⟩ := by
  have h4 : (ofText "🎉\né").locate 4 "🎉\né" = some ⟨4, 0, 2⟩ := by decide +kernel
  have h5 : (ofText "🎉\né").locate 5 "🎉\né" = some ⟨5, 1, 0⟩ := by decide +kernel
  have h2 : (ofText "🎉\né").locate 2 "🎉\né" = none := by decide +kernel
  obtain ⟨hvalid, -, horder⟩ := locate_exactly "🎉\né"
  refine ⟨_, _, _, rfl, h4, h5, (horder 4 5 _ _ h4 h5).1 (by decide), ?_⟩
  intro hinside
  obtain ⟨location, hlocation⟩ := (hvalid 2).2 ⟨by decide +kernel, hinside⟩
  rw [h2] at hlocation
  cases hlocation

/-! ### What stands at a location -/

/-- The row of a place: what the place has in front of it in the row, and what it has behind it. -/
theorem getElem?_split_lastPiece (front back : List Char) :
    (split '\n' (front ++ back))[front.count '\n']? =
      some (lastPiece '\n' front ++ firstPiece '\n' back) := by
  have hlength : (split '\n' front).dropLast.length = front.count '\n' := by
    rw [List.length_dropLast, length_split]
    rfl
  rw [split_append, List.getElem?_append_right (by omega), hlength, Nat.sub_self,
    List.getElem?_cons_zero]

/-- What stands first behind a place in its row: a newline ends the row. -/
theorem head?_firstPiece (cs : List Char) : (firstPiece '\n' cs).head? = cs.head?.filter (· ≠ '\n') := by
  cases cs with
  | nil => rfl
  | cons c cs =>
      by_cases hc : c = '\n'
      · subst hc
        rw [firstPiece, split_separator_cons]
        rfl
      · rw [firstPiece, split, if_neg hc, split_eq_cons, List.head?_cons, Option.filter_some,
          if_pos (decide_eq_true hc)]
        rfl

theorem charAtUnit_zero (cs : List Char) : charAtUnit cs 0 = cs.head? := by
  cases cs with
  | nil => rfl
  | cons c cs => rw [charAtUnit, if_pos (units16_pos c), List.head?_cons]

/-- **The rows make up the text, and the readers of positions agree.**  The rows joined by newlines are the
text, and there are no others.  An offset between two characters has a location, whose column is the column
of the offset in its row; and at its row and column a host with the text has the character at the offset,
unless that is a newline, and none at the end. -/
theorem readers_agree (text : String) :
    (∃ rows : List String, rows.length = (ofText text).lineCount ∧
      (∀ row, (ofText text).lineText row text = rows[row]?) ∧ "\n".intercalate rows = text) ∧
    ∀ offset, String.Pos.Raw.IsValid text ⟨offset⟩ →
      ∃ location start line, (ofText text).locate offset text = some location ∧
        (ofText text).lineStart location.row = some start ∧ start ≤ offset ∧
        (ofText text).lineText location.row text = some line ∧
        columnOfByte line.toList (offset - start) = some location.column ∧
        ∀ path, Host.charAt ⟨path, text⟩ location.row location.column =
          (String.Pos.Raw.get? text ⟨offset⟩).filter (· ≠ '\n') := by
  constructor
  · refine ⟨(split '\n' text.toList).map String.ofList, ?_, ?_, ?_⟩
    · rw [List.length_map, lineCount_ofText]
    · intro row
      rw [lineText_ofText, List.getElem?_map]
    · rw [← String.toList_inj, String.toList_intercalate, List.map_map, split_eq_splitOn]
      have hid : String.toList ∘ String.ofList = id := funext fun cs => String.toList_ofList
      rw [hid, List.map_id]
      exact List.intercalate_splitOn '\n'
  · intro offset hvalid
    obtain ⟨front, back, htext, rfl⟩ := isValid_iff_exists_parts.1 hvalid
    obtain ⟨before, hfront, hstart, hcount, hlength⟩ := exists_rowStart front
    have hbefore : text.toList = before ++ (lastPiece '\n' front ++ back) := by
      rw [← List.append_assoc, ← hfront, htext]
    have hrow := getElem?_split_lastPiece front back
    rw [← htext] at hrow
    refine ⟨_, utf8Length before, String.ofList (lastPiece '\n' front ++ firstPiece '\n' back),
      locate_ofText htext, ?_, by omega, ?_, ?_, ?_⟩
    · rw [← hcount]
      exact lineStart_ofText hbefore hstart
    · rw [lineText_ofText, hrow, Option.map_some]
    · rw [String.toList_ofList, hlength, Nat.add_sub_cancel_left, columnOfByte, takeBytes_append,
        Option.map_some]
    · intro path
      have hrows : (Host.mk path text).rows[front.count '\n']? =
          some (lastPiece '\n' front ++ firstPiece '\n' back) := hrow
      have hchar := charAtUnit_append_right (lastPiece '\n' front) (firstPiece '\n' back) 0
      rw [Host.charAt_eq, hrows, Option.bind_some, get?_of_parts htext, ← head?_firstPiece,
        ← charAtUnit_zero]
      exact hchar

/-- The character of two units in front of a newline, the newline, and the end of a text. -/
theorem readers_agree_newline :
    ∃ text : String, text = "a🎉\n" ∧ String.Pos.Raw.IsValid text ⟨1⟩ ∧
      String.Pos.Raw.IsValid text ⟨5⟩ ∧ String.Pos.Raw.IsValid text ⟨6⟩ ∧
      (∀ path, Host.charAt ⟨path, text⟩ 0 1 = some '🎉') ∧
      (∀ path, Host.charAt ⟨path, text⟩ 0 3 = none) ∧
      ∀ path, Host.charAt ⟨path, text⟩ 1 0 = none := by
  have hvalid : ∀ front back : List Char, "a🎉\n".toList = front ++ back →
      String.Pos.Raw.IsValid "a🎉\n" ⟨utf8Length front⟩ := fun front back h =>
    isValid_iff_exists_parts.2 ⟨front, back, h, rfl⟩
  have h1 := hvalid ['a'] ['🎉', '\n'] rfl
  have h5 := hvalid ['a', '🎉'] ['\n'] rfl
  have h6 := hvalid ['a', '🎉', '\n'] [] rfl
  obtain ⟨-, hread⟩ := readers_agree "a🎉\n"
  refine ⟨_, rfl, h1, h5, h6, ?_, ?_, ?_⟩
  · obtain ⟨location, _, _, hlocation, _, _, _, _, hchar⟩ := hread 1 h1
    obtain rfl : location = ⟨1, 0, 1⟩ := Option.some.inj (hlocation.symm.trans (by decide +kernel))
    exact hchar
  · obtain ⟨location, _, _, hlocation, _, _, _, _, hchar⟩ := hread 5 h5
    obtain rfl : location = ⟨5, 0, 3⟩ := Option.some.inj (hlocation.symm.trans (by decide +kernel))
    exact hchar
  · obtain ⟨location, _, _, hlocation, _, _, _, _, hchar⟩ := hread 6 h6
    obtain rfl : location = ⟨6, 1, 0⟩ := Option.some.inj (hlocation.symm.trans (by decide +kernel))
    exact hchar

end LineIndex

end Inlay
