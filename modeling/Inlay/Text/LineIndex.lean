/-
**Line index.**

The byte offsets of the newlines of a text, with its length: enough to turn offsets into locations
and rows into slices.  A newline belongs to the row that it ends.

Main definitions:

* `Inlay.LineIndex.ofText` — the index of a text;
* `Inlay.LineIndex.locate` — the location of a byte offset;
* `Inlay.LineIndex.lineStart`, `Inlay.LineIndex.lineEnd`, `Inlay.LineIndex.lineText` — rows.
-/
import Inlay.Text.Location

set_option autoImplicit false

namespace Inlay

/-- Where the lines of a text break. -/
structure LineIndex where
  /-- Byte offsets of the newlines, in increasing order. -/
  breaks : List Nat
  /-- Length of the text in bytes. -/
  length : Nat
  deriving DecidableEq, Repr

namespace LineIndex

/-- Byte offsets of the newlines in `cs`, the first character standing at `offset`. -/
def breaksFrom (offset : Nat) : List Char → List Nat
  | [] => []
  | c :: cs =>
    if c = '\n' then offset :: breaksFrom (offset + c.utf8Size) cs
    else breaksFrom (offset + c.utf8Size) cs

/-- The line index of a text. -/
def ofText (text : String) : LineIndex where
  breaks := breaksFrom 0 text.toList
  length := Text.utf8Length text.toList

/-- Number of lines: one more than there are newlines. -/
def lineCount (index : LineIndex) : Nat :=
  index.breaks.length + 1

/-- Byte offset of the start of `row`. -/
def lineStart (index : LineIndex) : Nat → Option Nat
  | 0 => some 0
  | row + 1 => index.breaks[row]?.map (· + 1)

/-- Byte offset of the end of `row`, its newline left out. -/
def lineEnd (index : LineIndex) (row : Nat) : Option Nat :=
  if row < index.lineCount then some (index.breaks[row]?.getD index.length) else none

/-- The text of `row` without its newline; `text` is the text that was indexed. -/
def lineText (index : LineIndex) (row : Nat) (text : String) : Option String :=
  match index.lineStart row, index.lineEnd row with
  | some start, some stop => (Text.sliceBytes start stop text.toList).map String.ofList
  | _, _ => none

/-- The row that holds the byte at `offset`: the newlines before it are counted. -/
def rowOf (index : LineIndex) (offset : Nat) : Nat :=
  (index.breaks.takeWhile (· < offset)).length

/-- The location of a byte offset; `text` is the text that was indexed.  There is none beyond the
end and inside a character. -/
def locate (index : LineIndex) (offset : Nat) (text : String) : Option Location :=
  if offset ≤ index.length then
    match index.lineStart (index.rowOf offset) with
    | none => none
    | some start =>
      (Text.sliceBytes start offset text.toList).map fun front =>
        { offset, row := index.rowOf offset, column := Text.utf16Length front }
  else none

end LineIndex

end Inlay
