/-
**Places in a host document.**

The rows of a host are the pieces of its text between newlines, so everything that is asked of a row can
be answered from the piece.  A place is in the host if its line is one of the rows and its column is not
beyond the end of that row.  Translating a snippet position always gives such a place, and gives one
exactly if the line is there.

Main definitions:

* `Inlay.Host.rows` — the rows of a host;
* `Inlay.Host.Contains` — whether a place is in the host.

Main results:

* `Inlay.Host.lineText_eq`, `Inlay.Host.lineLength_eq`, `Inlay.Host.charAt_eq`,
  `Inlay.Host.lineCount_eq` — what is asked of a row, in terms of the pieces;
* `Inlay.Host.Contains.le` — the positions of a host are no greater than its length;
* `Inlay.Placement.exists_toHost_iff` — a snippet position has a place exactly if its line is there;
* `Inlay.Placement.contains_of_toHost` — **and that place is in the host**.
-/
import Inlay.Proofs.LineIndex
import Mathlib.Tactic.SplitIfs

set_option autoImplicit false

namespace Inlay

/-! ### Measures of a text -/

namespace Text

theorem units16_le_utf8Size (c : Char) : units16 c ≤ c.utf8Size := by
  unfold units16 Char.utf8Size Char.toNat
  simp only [UInt32.le_iff_toNat_le, UInt32.toNat_ofNatLT]
  split_ifs <;> omega

theorem utf16Length_le_utf8Length (cs : List Char) : utf16Length cs ≤ utf8Length cs := by
  induction cs with
  | nil => exact Nat.le_refl 0
  | cons c cs ih => exact Nat.add_le_add (units16_le_utf8Size c) ih

theorem length_le_utf8Length (cs : List Char) : cs.length ≤ utf8Length cs := by
  induction cs with
  | nil => exact Nat.le_refl 0
  | cons c cs ih =>
      have hpos := c.utf8Size_pos
      rw [List.length_cons, utf8Length_cons]
      omega

end Text

/-! ### Rows -/

namespace Host

/-- The rows of a host. -/
def rows (host : Host) : List (List Char) :=
  Text.split '\n' host.text.toList

theorem lineText_eq (host : Host) (line : Nat) :
    host.lineText line = (host.rows[line]?).map String.ofList :=
  LineIndex.lineText_ofText host.text line

theorem lineCount_eq (host : Host) : host.lineCount = host.rows.length :=
  LineIndex.lineCount_ofText host.text

theorem lineLength_eq (host : Host) (line : Nat) :
    host.lineLength line = (host.rows[line]?).map Text.utf16Length := by
  rw [lineLength, lineText_eq, Option.map_map]
  congr 1
  funext row
  simp

theorem charAt_eq (host : Host) (line column : Nat) :
    host.charAt line column = (host.rows[line]?).bind fun row => Text.charAtUnit row column := by
  rw [charAt, lineText_eq, Option.bind_map]
  congr 1
  funext row
  simp

/-- A line has a length exactly if it is there. -/
theorem exists_lineLength_iff {host : Host} {line : Nat} :
    (∃ length, host.lineLength line = some length) ↔ line < host.lineCount := by
  rw [lineCount_eq, lineLength_eq, ← Option.isSome_iff_exists, Option.isSome_map]
  simp

/-- There is no text of a line exactly if the line is not there. -/
theorem lineText_eq_none_iff {host : Host} {line : Nat} :
    host.lineText line = none ↔ host.lineCount ≤ line := by
  rw [lineText_eq, Option.map_eq_none_iff, List.getElem?_eq_none_iff, lineCount_eq]

/-- Whether a place is in the host: its line is there, and its column is not beyond the end. -/
def Contains (host : Host) (line column : Nat) : Prop :=
  line < host.lineCount ∧ ∃ length, host.lineLength line = some length ∧ column ≤ length

theorem contains_of_le {host : Host} {line column length : Nat}
    (h : host.lineLength line = some length) (hle : column ≤ length) :
    host.Contains line column :=
  ⟨exists_lineLength_iff.1 ⟨length, h⟩, length, h, hle⟩

/-- The positions of a host are no greater than its length. -/
theorem Contains.le {host : Host} {line column : Nat} (h : host.Contains line column) :
    line ≤ Text.utf8Length host.text.toList ∧ column ≤ Text.utf8Length host.text.toList := by
  obtain ⟨hline, length, hlength, hcolumn⟩ := h
  constructor
  · -- a line needs a newline for each line before it
    rw [lineCount_eq, rows, Text.length_split] at hline
    have hcount := List.count_le_length (a := '\n') (l := host.text.toList)
    have hbytes := Text.length_le_utf8Length host.text.toList
    omega
  · -- and its text is a part of the whole
    rw [lineLength_eq] at hlength
    obtain ⟨row, hrow, rfl⟩ := Option.map_eq_some_iff.1 hlength
    obtain ⟨front, back, htext, _⟩ := Text.exists_row hrow
    have hle := Text.utf16Length_le_utf8Length row
    rw [htext, Text.utf8Length_append, Text.utf8Length_append]
    omega

end Host

/-! ### Snippet positions -/

namespace Placement

variable {placement : Placement} {host : Host} {line column : Nat} {adjust : Bool}

/-- A host line that is a word is the sum of the lines. -/
theorem hostLine_of_lt (h : placement.startLine + line < Word.size) :
    placement.hostLine line = placement.startLine + line :=
  Word.add_of_lt h

/-- A host column that is a word is the sum of the columns. -/
theorem hostColumn_of_lt
    (h : column + placement.removedIndent + (if line = 0 then placement.firstLineColumn else 0) <
      Word.size) :
    placement.hostColumn line column =
      column + placement.removedIndent + if line = 0 then placement.firstLineColumn else 0 := by
  have hinner : Word.add column placement.removedIndent = column + placement.removedIndent :=
    Word.add_of_lt (by omega)
  rw [hostColumn, hinner, Word.add_of_lt h]

/-- A snippet position has a place exactly if its line is there. -/
theorem exists_toHost_iff :
    (∃ place, placement.toHost host line column adjust = some place) ↔
      placement.hostLine line < host.lineCount := by
  rw [← Host.exists_lineLength_iff, ← Option.isSome_iff_exists, ← Option.isSome_iff_exists, toHost,
    Option.isSome_map]

/-- **The place of a snippet position is in the host.** -/
theorem contains_of_toHost {place : HostPosition}
    (h : placement.toHost host line column adjust = some place) :
    host.Contains place.line place.column := by
  obtain ⟨length, hlength, rfl⟩ := Option.map_eq_some_iff.1 h
  exact Host.contains_of_le hlength (Nat.min_le_right _ _)

end Placement

end Inlay
