/-
**Position maps.**

The published form of a map: a record with one source, the host, and all mappings in one text.  Lines
are separated by semicolons and segments by commas; a segment gives the differences to the values
before it.  The generated column starts again on every line, the other values run on.

Main definitions:

* `Inlay.PositionMap` — the record, with its JSON forms;
* `Inlay.PositionMap.encodeMappings` — the text of a sorted list of mappings;
* `Inlay.PositionMap.encode` — the record for the mappings of both passes;
* `Inlay.PositionMap.isEmpty` — whether there is no mapping at all.
-/
import Inlay.Host
import Inlay.Json.Printer
import Inlay.Json.Reader
import Inlay.Json.Record
import Inlay.Map.Mapping
import Inlay.Map.Vlq

set_option autoImplicit false

namespace Inlay

/-- A published map. -/
structure PositionMap where
  version : Nat
  file : String
  sources : List String
  sourcesContent : List String
  names : List String
  mappings : String
  deriving DecidableEq, Repr

namespace PositionMap

/-! ### The text of the mappings -/

/-- What the next segment is written relative to. -/
structure Cursor where
  /-- The generated line reached. -/
  line : Nat := 0
  /-- Whether no segment of that line was written yet. -/
  fresh : Bool := true
  /-- The generated column before. -/
  column : Int := 0
  /-- The host line before. -/
  hostLine : Int := 0
  /-- The host column before. -/
  hostColumn : Int := 0
  /-- The name index before. -/
  name : Int := 0

namespace Cursor

/-- What stands between the segment before and one on generated line `line`. -/
def separator (cursor : Cursor) (line : Nat) : List Char :=
  if cursor.line < line then List.replicate (line - cursor.line) ';'
  else if cursor.fresh then []
  else [',']

/-- The generated column that a segment on line `line` is relative to. -/
def baseColumn (cursor : Cursor) (line : Nat) : Int :=
  if cursor.line < line then 0 else cursor.column

/-- A difference of two signed words. -/
def difference (new old : Int) : List Char :=
  Vlq.encode (Word.signed (new - old))

/-- The text of a mapping, its name index given. -/
def segment (cursor : Cursor) (mapping : Mapping) (index : Option Nat) : List Char :=
  difference (Word.signed mapping.column) (cursor.baseColumn mapping.line)
    ++ Vlq.encode 0
    ++ difference (Word.signed mapping.target.line) cursor.hostLine
    ++ difference (Word.signed mapping.target.column) cursor.hostColumn
    ++ match index with
      | some index => difference (Word.signed index) cursor.name
      | none => []

/-- The cursor after a mapping. -/
def after (cursor : Cursor) (mapping : Mapping) (index : Option Nat) : Cursor where
  line := max cursor.line mapping.line
  fresh := false
  column := Word.signed mapping.column
  hostLine := Word.signed mapping.target.line
  hostColumn := Word.signed mapping.target.column
  name :=
    match index with
    | some index => Word.signed index
    | none => cursor.name

end Cursor

/-- The index of a mapping's name in the table of names. -/
def nameIndex (names : List String) (mapping : Mapping) : Option Nat :=
  mapping.target.name.bind fun name => names.findIdx? (· == name)

/-- The text of the mappings that follow the cursor. -/
def encodeFrom (names : List String) (cursor : Cursor) : List Mapping → List Char
  | [] => []
  | mapping :: rest =>
    let index := nameIndex names mapping
    cursor.separator mapping.line ++ cursor.segment mapping index
      ++ encodeFrom names (cursor.after mapping index) rest

/-- The text of a sorted list of mappings. -/
def encodeMappings (mappings : List Mapping) (names : List String) : String :=
  String.ofList (encodeFrom names {} mappings)

/-- The map of the mappings of both passes. -/
def encode (host : Host) (coalesced overrides : List Mapping) : PositionMap :=
  let merged := Mapping.merge coalesced overrides
  let names := Mapping.names merged
  { version := 3
    file := host.path
    sources := [host.path]
    sourcesContent := [host.text]
    names
    mappings := encodeMappings merged names }

/-- Whether there is no mapping: the text holds line separators only. -/
def isEmpty (map : PositionMap) : Bool :=
  map.mappings.toList.all (· == ';')

/-! ### JSON -/

/-- The record as JSON. -/
def json (map : PositionMap) : Json :=
  .obj
    [("version", .int map.version), ("file", .str map.file),
      ("sources", .arr (map.sources.map .str)),
      ("sourcesContent", .arr (map.sourcesContent.map .str)),
      ("names", .arr (map.names.map .str)), ("mappings", .str map.mappings)]

/-- The map written as a record. -/
def ofJson (json : Json) : Except Json.ShapeError PositionMap := do
  match ← Json.fields
      [("version", .required), ("file", .required), ("sources", .required),
        ("sourcesContent", .defaulted), ("names", .defaulted), ("mappings", .required)] json with
  | [version, file, sources, sourcesContent, names, mappings] =>
    let version ← Json.asRequired (Json.asNatBelow 256) version
    let file ← Json.asRequired Json.asString file
    let sources ← Json.asRequired (Json.asList Json.asString) sources
    let sourcesContent ← Json.asDefaulted (Json.asList Json.asString) [] sourcesContent
    let names ← Json.asDefaulted (Json.asList Json.asString) [] names
    let mappings ← Json.asRequired Json.asString mappings
    return { version, file, sources, sourcesContent, names, mappings }
  | _ => .error .mismatch

/-- The map in a JSON text. -/
def ofText? (text : String) : Option PositionMap :=
  (Json.parse? text).bind fun json => (ofJson json).toOption

end PositionMap

end Inlay
