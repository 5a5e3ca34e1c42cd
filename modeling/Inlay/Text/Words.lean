/-
**Looking for a word.**

A text occurs as a word where what stands on its two sides is a boundary: a word character on one
side and none on the other.

Main definitions:

* `Inlay.Text.isBoundary` — whether a place between two characters is a boundary;
* `Inlay.Text.findWord` — the byte offset of the first occurrence of a text as a word.
-/
import Inlay.Text.Units
import Inlay.Unicode.Property

set_option autoImplicit false

namespace Inlay.Text

/-- Whether exactly one of the characters before and after a place is a word character. -/
def isBoundary (before after : Option Char) : Bool :=
  before.any Unicode.isWord != after.any Unicode.isWord

/-- The rest after a text that stands at the start of another. -/
def dropFront : List Char → List Char → Option (List Char)
  | [], cs => some cs
  | _ :: _, [] => none
  | w :: ws, c :: cs => if w = c then dropFront ws cs else none

/-- Whether a text occurs as a word at the start of `cs`, with `before` in front of it. -/
def wordHere (word : List Char) (before : Option Char) (cs : List Char) : Bool :=
  match dropFront word cs with
  | none => false
  | some rest =>
    isBoundary before cs.head? && isBoundary (word.getLast?.or before) rest.head?

/-- The byte offset, counted from `offset`, of the first occurrence of a text as a word. -/
def findWordFrom (word : List Char) : Option Char → Nat → List Char → Option Nat
  | before, offset, [] => if wordHere word before [] then some offset else none
  | before, offset, c :: cs =>
    if wordHere word before (c :: cs) then some offset
    else findWordFrom word (some c) (offset + c.utf8Size) cs

/-- The byte offset of the first occurrence of a text as a word of a line. -/
def findWord (word line : List Char) : Option Nat :=
  findWordFrom word none 0 line

end Inlay.Text
