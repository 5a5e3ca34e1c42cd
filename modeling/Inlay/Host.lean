/-
**Host documents and snippet placements.**

A host document embeds snippets of another language.  A snippet is compiled after its common
indentation was taken away; its placement says where it sat, so that a position in the snippet
becomes a position in the host.

Main definitions:

* `Inlay.Host` — a document with its path, read by line and UTF-16 column;
* `Inlay.Placement` — where a dedented snippet sits;
* `Inlay.Placement.toHost` — the host position of a snippet position.
-/
import Inlay.Text.LineIndex
import Inlay.Unicode.Property
import Inlay.Word

set_option autoImplicit false

namespace Inlay

/-- A document that embeds snippets. -/
structure Host where
  /-- The name under which maps refer to the document. -/
  path : String
  /-- The whole text. -/
  text : String
  deriving DecidableEq, Repr

/-- A place in a host document, lines and UTF-16 columns counted from zero. -/
structure HostPosition where
  /-- The host line. -/
  line : Nat
  /-- The UTF-16 column. -/
  column : Nat
  deriving DecidableEq, Repr

namespace Host

/-- The line index of the text. -/
def index (host : Host) : LineIndex :=
  LineIndex.ofText host.text

/-- Number of lines. -/
def lineCount (host : Host) : Nat :=
  host.index.lineCount

/-- A line without its newline. -/
def lineText (host : Host) (line : Nat) : Option String :=
  host.index.lineText line host.text

/-- Length of a line in UTF-16 units. -/
def lineLength (host : Host) (line : Nat) : Option Nat :=
  (host.lineText line).map fun text => Text.utf16Length text.toList

/-- The character that covers a position. -/
def charAt (host : Host) (line column : Nat) : Option Char :=
  (host.lineText line).bind fun text => Text.charAtUnit text.toList column

/-- Whether the character at a position is white space; beyond the end of a line none is. -/
def isSpaceAt (host : Host) (line column : Nat) : Bool :=
  (host.charAt line column).any Unicode.isSpace

end Host

/-- Where a dedented snippet sits in its host. -/
structure Placement where
  /-- The host line that holds the first snippet line. -/
  startLine : Nat
  /-- Columns taken away from every snippet line. -/
  removedIndent : Nat
  /-- Further columns before the first snippet line, when it shares a line with its opening tag. -/
  firstLineColumn : Nat
  deriving DecidableEq, Repr, Inhabited

namespace Placement

/-- The host line of a snippet line. -/
def hostLine (placement : Placement) (line : Nat) : Nat :=
  Word.add placement.startLine line

/-- The host column of a snippet position, before any adjustment. -/
def hostColumn (placement : Placement) (line column : Nat) : Nat :=
  Word.add (Word.add column placement.removedIndent)
    (if line = 0 then placement.firstLineColumn else 0)

/-- Moves a column that lies on the space of a comma and space back onto the comma. -/
def ontoSeparator (host : Host) (line column : Nat) : Nat :=
  if 0 < column ∧ host.charAt line (column - 1) = some ',' ∧ host.charAt line column = some ' ' then
    column - 1
  else column

/-- The host position of a snippet position.  There is none on a line outside the host; columns
beyond the end of the line go to its end. -/
def toHost (placement : Placement) (host : Host) (line column : Nat) (adjustSeparators : Bool) :
    Option HostPosition :=
  (host.lineLength (placement.hostLine line)).map fun length =>
    let hostLine := placement.hostLine line
    let plain := placement.hostColumn line column
    let adjusted := if adjustSeparators then ontoSeparator host hostLine plain else plain
    { line := hostLine, column := min adjusted length }

end Placement

end Inlay
