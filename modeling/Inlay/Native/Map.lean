/-
**The compiler's own map.**

Segments by generated line, with the table of names they refer to and some bookkeeping that is
carried along unread.

Main definitions:

* `Inlay.NativeMap` — the map;
* `Inlay.NativeMap.ofLines` — the map of nested integer arrays;
* `Inlay.NativeMap.rawLines` — the arrays again, as far as they were understood;
* `Inlay.NativeMap.ofText?`, `Inlay.NativeMap.ofValue` — reading the map from JSON.
-/
import Inlay.Json.Reader
import Inlay.Json.Record
import Inlay.Native.Segment

set_option autoImplicit false

namespace Inlay

/-- Bookkeeping of the compiler, carried along unread. -/
structure NativeExtras where
  line : Option Int := none
  columnOffset : Option Int := none
  sourceLine : Option Int := none
  sourceColumn : Option Int := none
  sourceOffset : Option Int := none
  sourceTable : Option (List Int) := none
  deriving DecidableEq, Repr

/-- The map that a snippet compiler reports. -/
structure NativeMap where
  /-- Segments by generated line. -/
  lines : List (List Segment)
  /-- The table of names. -/
  names : Option (List String) := none
  /-- The snippet as the compiler saw it. -/
  source : Option String := none
  /-- Unread bookkeeping. -/
  extras : NativeExtras := {}
  deriving DecidableEq, Repr

namespace NativeMap

/-- The map of nested integer arrays. -/
def ofLines (lines : List (List (List Int))) (names : Option (List String)) : NativeMap where
  lines := lines.map fun segments =>
    segments.map fun fields => Segment.ofFields fields ((names.map List.length).getD 0)
  names := names

/-- The segments of a generated line; a line that is not there has none. -/
def segments (map : NativeMap) (line : Nat) : List Segment :=
  map.lines[line]?.getD []

/-- The first segment of a generated line. -/
def firstSegment (map : NativeMap) (line : Nat) : Option Segment :=
  (map.segments line).head?

/-- The name with the given index. -/
def name (map : NativeMap) (index : Nat) : Option String :=
  map.names.bind fun names => names[index]?

/-- The integer arrays that the segments stand for. -/
def rawLines (map : NativeMap) : List (List (List Int)) :=
  map.lines.map fun segments => segments.map Segment.toFields

/-! ### Reading from JSON -/

/-- The fields of the record, in order. -/
def recordFields : List (String × Json.Presence) :=
  [("lines", .required), ("names", .defaulted), ("source", .defaulted), ("line", .defaulted),
    ("colOffset", .defaulted), ("srcLine", .defaulted), ("srcColumn", .defaulted),
    ("srcOffset", .defaulted), ("srcTable", .defaulted)]

/-- The map written as a record. -/
def ofJson (json : Json) : Except Json.ShapeError NativeMap := do
  match ← Json.fields recordFields json with
  | [lines, names, source, line, columnOffset, sourceLine, sourceColumn, sourceOffset,
      sourceTable] =>
    let lines ← Json.asRequired (Json.asList (Json.asList (Json.asList Json.asInt))) lines
    let names ← Json.asOptional (Json.asList Json.asString) names
    let source ← Json.asOptional Json.asString source
    let line ← Json.asOptional Json.asInt line
    let columnOffset ← Json.asOptional Json.asInt columnOffset
    let sourceLine ← Json.asOptional Json.asInt sourceLine
    let sourceColumn ← Json.asOptional Json.asInt sourceColumn
    let sourceOffset ← Json.asOptional Json.asInt sourceOffset
    let sourceTable ← Json.asOptional (Json.asList Json.asInt) sourceTable
    return { ofLines lines names with
      source,
      extras := { line, columnOffset, sourceLine, sourceColumn, sourceOffset, sourceTable } }
  | _ => .error .mismatch

/-- The map in a JSON text; a repeated field is refused. -/
def ofText? (text : String) : Option NativeMap :=
  (Json.parse? text).bind fun json => (ofJson json).toOption

/-- The map in a JSON value; of a repeated field the last one counts. -/
def ofValue (json : Json) : Except Json.ShapeError NativeMap :=
  match json.settle? with
  | some settled => ofJson settled
  | none => .error .mismatch

end NativeMap

end Inlay
