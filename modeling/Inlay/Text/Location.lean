/-
**Locations and ranges.**

A location names a place in a text three ways at once: as a byte offset, and as a row with a UTF-16
column.  Locations are ordered by offset, then row, then column.

Main definitions:

* `Inlay.Location` with `Inlay.Location.compare`;
* `Inlay.Range` with its length, emptiness and slice.
-/
import Inlay.Text.Units

set_option autoImplicit false

namespace Inlay

/-- A place in a text; rows, columns and offsets count from zero. -/
structure Location where
  /-- Bytes before the place. -/
  offset : Nat
  /-- Newlines before the place. -/
  row : Nat
  /-- UTF-16 units between the start of the row and the place. -/
  column : Nat
  deriving DecidableEq, Repr, Inhabited

namespace Location

/-- Offset first, then row, then column. -/
def compare (a b : Location) : Ordering :=
  (Ord.compare a.offset b.offset).then
    ((Ord.compare a.row b.row).then (Ord.compare a.column b.column))

end Location

/-- The text from `start` up to `stop`. -/
structure Range where
  /-- First location covered. -/
  start : Location
  /-- First location not covered. -/
  stop : Location
  deriving DecidableEq, Repr, Inhabited

namespace Range

/-- Whether both ends lie on one row. -/
def singleRow (range : Range) : Bool :=
  range.start.row == range.stop.row

/-- Length in bytes; a reversed range has length zero. -/
def length (range : Range) : Nat :=
  range.stop.offset - range.start.offset

/-- Whether no byte is covered. -/
def isEmpty (range : Range) : Bool :=
  range.length == 0

/-- The text covered, when both ends are places between two characters. -/
def slice (range : Range) (source : String) : Option String :=
  (Text.sliceBytes range.start.offset range.stop.offset source.toList).map String.ofList

end Range

end Inlay
