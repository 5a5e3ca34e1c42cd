/-
**Reading position maps.**

The text of the mappings is read back segment by segment.  A fault is reported with the line and the
index of its segment; empty segments are skipped but counted.

Main definitions:

* `Inlay.DecodedMapping` — a mapping with indices instead of names;
* `Inlay.PositionMap.decodeMappings` — all mappings of a text;
* `Inlay.PositionMap.lookup` — the host place of a generated place.
-/
import Inlay.Map.Position
import Inlay.Text.Split

set_option autoImplicit false

namespace Inlay

/-- A mapping as read from a text. -/
structure DecodedMapping where
  line : Nat
  column : Nat
  /-- The index of the source; a segment of one field has none. -/
  source : Option Nat
  hostLine : Nat
  hostColumn : Nat
  /-- The index of the name. -/
  name : Option Nat
  deriving DecidableEq, Repr

/-- What is wrong with a segment of a text of mappings. -/
inductive MappingFault where
  | digits (fault : Vlq.Fault)
  | columnOverflow
  | negativeColumn
  | sourceOverflow
  | lineOverflow
  | hostColumnOverflow
  | negativeLine
  | negativeHostColumn
  | nameOverflow
  | arity (length : Nat)
  deriving DecidableEq, Repr

namespace MappingFault

/-- The fault in words. -/
def message : MappingFault → String
  | digits (.invalidDigit c) => "invalid base64 character " ++ Text.quoteChar c
  | digits .tooWide => "value does not fit in 64 bits"
  | digits .truncated => "truncated value"
  | columnOverflow => "column overflow"
  | negativeColumn => "negative column"
  | sourceOverflow => "source index overflow"
  | lineOverflow => "original line overflow"
  | hostColumnOverflow => "original column overflow"
  | negativeLine => "negative original line"
  | negativeHostColumn => "negative original column"
  | nameOverflow => "name index overflow"
  | arity length => "segment has " ++ Json.intText length ++ " fields"

end MappingFault

/-- A fault with its place. -/
structure MappingError where
  /-- The generated line. -/
  line : Nat
  /-- The index of the segment on it. -/
  segment : Nat
  /-- What is wrong there. -/
  fault : MappingFault
  deriving DecidableEq, Repr

namespace MappingError

/-- The error in words. -/
def message (error : MappingError) : String :=
  "Invalid mappings at segment " ++ Json.intText error.segment ++ " of line "
    ++ Json.intText error.line ++ ": " ++ error.fault.message

end MappingError

namespace PositionMap

/-- The values that run on from segment to segment. -/
structure Running where
  source : Int := 0
  hostLine : Int := 0
  hostColumn : Int := 0
  name : Int := 0
  deriving DecidableEq, Repr

/-- An index, unless it is negative. -/
def index? (n : Int) : Option Nat :=
  if 0 ≤ n then some n.toNat else none

/-- A value moved by a difference; a sum that is no signed word is a fault. -/
def advance (value difference : Int) (fault : MappingFault) : Except MappingFault Int :=
  match Word.addSigned? value difference with
  | some sum => .ok sum
  | none => .error fault

/-- A position, unless it is negative. -/
def position (n : Int) (fault : MappingFault) : Except MappingFault Nat :=
  match index? n with
  | some found => .ok found
  | none => .error fault

/-- The name field of a segment, if it has one. -/
def readName (running : Running) : Option Int → Except MappingFault (Option Nat × Running)
  | none => .ok (none, running)
  | some difference => do
    let name ← advance running.name difference .nameOverflow
    return (index? name, { running with name })

/-- The host side of a segment of four or five fields. -/
def readTarget (place : DecodedMapping) (running : Running) (source line column : Int)
    (name : Option Int) : Except MappingFault (DecodedMapping × Running) := do
  let source ← advance running.source source .sourceOverflow
  let hostLine ← advance running.hostLine line .lineOverflow
  let hostColumn ← advance running.hostColumn column .hostColumnOverflow
  let linePosition ← position hostLine .negativeLine
  let columnPosition ← position hostColumn .negativeHostColumn
  let (name, running) ← readName { running with source, hostLine, hostColumn } name
  return ({ place with
    source := index? source, hostLine := linePosition, hostColumn := columnPosition, name }, running)

/-- One segment: its mapping, the generated column after it, and the running values after it. -/
def readSegment (line : Nat) (column : Int) (running : Running) (segment : List Char) :
    Except MappingFault (DecodedMapping × Int × Running) := do
  let values ← (Vlq.decode segment).mapError .digits
  let column ← advance column (values.headD 0) .columnOverflow
  let columnPosition ← position column .negativeColumn
  let place : DecodedMapping :=
    { line, column := columnPosition, source := none, hostLine := 0, hostColumn := 0, name := none }
  match values with
  | [_] => return (place, column, running)
  | [_, source, hostLine, hostColumn] =>
    let (found, running) ← readTarget place running source hostLine hostColumn none
    return (found, column, running)
  | [_, source, hostLine, hostColumn, name] =>
    let (found, running) ← readTarget place running source hostLine hostColumn (some name)
    return (found, column, running)
  | _ => .error (.arity values.length)

/-- The segments of one line, the first of them having index `index`. -/
def readLine (line : Nat) : Nat → Int → Running → List (List Char) →
    Except MappingError (List DecodedMapping × Running)
  | _, _, running, [] => .ok ([], running)
  | index, column, running, segment :: rest =>
    if segment.isEmpty then readLine line (index + 1) column running rest
    else
      match readSegment line column running segment with
      | .error fault => .error { line, segment := index, fault }
      | .ok (found, column, running) =>
        (readLine line (index + 1) column running rest).map fun (more, running) =>
          (found :: more, running)

/-- The lines of a text, the first of them having number `line`. -/
def readLines : Nat → Running → List (List Char) → Except MappingError (List DecodedMapping)
  | _, _, [] => .ok []
  | line, running, group :: rest =>
    match readLine line 0 0 running (Text.split ',' group) with
    | .error error => .error error
    | .ok (found, running) => (readLines (line + 1) running rest).map (found ++ ·)

/-- All mappings of a text. -/
def decodeMappings (mappings : String) : Except MappingError (List DecodedMapping) :=
  readLines 0 {} (Text.split ';' mappings.toList)

/-- All mappings of a map. -/
def decode (map : PositionMap) : Except MappingError (List DecodedMapping) :=
  decodeMappings map.mappings

/-! ### Looking up a place -/

/-- A place in a source, its line counted from one. -/
structure SourcePosition where
  source : String
  line : Nat
  column : Nat
  name : Option String
  deriving DecidableEq, Repr

/-- The place as JSON. -/
def SourcePosition.json (position : SourcePosition) : Json :=
  .obj [("source", .str position.source), ("line", .int position.line),
    ("column", .int position.column),
    ("name", match position.name with
      | some name => .str name
      | none => .null)]

/-- The later of two mappings with the greater column; of equal columns the second. -/
def rightmost : List DecodedMapping → Option DecodedMapping
  | [] => none
  | first :: rest =>
    match rightmost rest with
    | none => some first
    | some best => if first.column ≤ best.column then some best else some first

/-- The mapping that covers a generated place, among those with a source. -/
def covering (mappings : List DecodedMapping) (line column : Nat) : Option DecodedMapping :=
  rightmost (mappings.filter fun mapping =>
    mapping.line == line && mapping.column ≤ column && mapping.source.isSome)

/-- The source place of a decoded mapping. -/
def resolve (map : PositionMap) (mapping : DecodedMapping) : Option SourcePosition :=
  (mapping.source.bind fun source => map.sources[source]?).map fun source =>
    { source
      line := mapping.hostLine + 1
      column := mapping.hostColumn
      name := mapping.name.bind fun name => map.names[name]? }

/-- The source place of a generated place, its line counted from one: that of the mapping with the
greatest column not after it on its line. -/
def lookup (map : PositionMap) (line column : Nat) :
    Except MappingError (Option SourcePosition) :=
  match line with
  | 0 => .ok none
  | line + 1 => map.decode.map fun mappings => (covering mappings line column).bind map.resolve

end PositionMap

end Inlay
