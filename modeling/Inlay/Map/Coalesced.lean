/-
**Mappings from the compiler's segments.**

Each generated line is walked from left to right.  At most one mapping is pending; segments that land
on its column compete with it, and it is settled once the walk moves on.

Main definitions:

* `Inlay.Target.prefers` — which of two targets of one generated place is better;
* `Inlay.Walk.line` — the mappings and reports of one line;
* `Inlay.Walk.coalesce` — those of a whole map.
-/
import Inlay.Analysis
import Inlay.Host
import Inlay.Map.Mapping
import Inlay.Native.Map
import Inlay.Word

set_option autoImplicit false

namespace Inlay

/-- Whether `candidate` is a better target than `current`: a character beats white space, then an
earlier position beats a later one, then a name beats none. -/
def Target.prefers (host : Host) (current candidate : Target) : Bool :=
  let currentSpace := host.isSpaceAt current.line current.column
  let candidateSpace := host.isSpaceAt candidate.line candidate.column
  if currentSpace != candidateSpace then currentSpace
  else if candidate.line = current.line then
    if candidate.column ≠ current.column then candidate.column < current.column
    else candidate.name.isSome && current.name.isNone
  else candidate.line < current.line

/-- What a walk over segments consults. -/
structure Walk where
  map : NativeMap
  analysis : Analysis
  host : Host
  placement : Placement
  adjustSeparators : Bool

namespace Walk

/-- The report of a column that does not fit a machine word. -/
def overflow (line column delta : Nat) : Diagnostic :=
  (Diagnostic.of .malformedSegment
    ("column delta " ++ Json.intText delta ++ " overflows the generated column")).atGenerated line
      column

/-- The report of a segment that means nothing. -/
def malformed (line column : Nat) (fault : SegmentFault) : Diagnostic :=
  (Diagnostic.of .malformedSegment fault.message).atGenerated line column

/-- The report of a segment that points outside the host. -/
def outside (walk : Walk) (line column snippetLine : Nat) : Diagnostic :=
  ((Diagnostic.of .outOfBounds
    ("host has " ++ Json.intText walk.host.lineCount ++ " lines, segment points at snippet line "
      ++ Json.intText snippetLine)).atGenerated line column).onHostLine
        (walk.placement.hostLine snippetLine)

/-- The mapping of a generated place to a snippet position, if the host has it. -/
def candidate? (walk : Walk) (line column snippetLine snippetColumn : Nat) (name : Option String) :
    Option Mapping :=
  (walk.placement.toHost walk.host snippetLine snippetColumn walk.adjustSeparators).map fun place =>
    { line, column, target := { line := place.line, column := place.column, name },
      origin := .coalesced }

/-- The mapping that ends the range of a pending one, `delta` columns of host text later. -/
def rangeEnd (walk : Walk) (pending : Mapping) (column delta : Nat) : Mapping :=
  let length := (walk.host.lineLength pending.target.line).getD 0
  { pending with
    column,
    target := { pending.target with column := min (pending.target.column + delta) length } }

/-- Takes a candidate in: the mapping that is now settled, if any, and the one that is pending. -/
def hold (walk : Walk) (pending : Option Mapping) (candidate : Mapping) :
    Option Mapping × Mapping :=
  match pending with
  | none => (none, candidate)
  | some current =>
    if current.column = candidate.column then
      if current.target.prefers walk.host candidate.target then
        (none, { current with target := candidate.target })
      else (none, current)
    else (some current, candidate)

/-- The column that a segment reaches, if it fits. -/
def reached? (column : Nat) (segment : Segment) : Option Nat :=
  match segment.delta? with
  | some delta => Word.add? column delta
  | none => some column

/-- The mappings and reports of the segments of a line, from `column` on, with a pending mapping. -/
def line (walk : Walk) (number : Nat) :
    Nat → Option Mapping → List Segment → List Mapping × List Diagnostic
  | _, pending, [] => (pending.toList, [])
  | column, pending, segment :: rest =>
    match reached? column segment with
    | none => (pending.toList, [overflow number column (segment.delta?.getD 0)])
    | some column =>
      let isProtected := walk.analysis.protection.containsStrictly number column
      match segment with
      | .malformed _ fault =>
        let (mappings, reports) := walk.line number column pending rest
        (mappings, malformed number column fault :: reports)
      | .advance delta =>
        match pending with
        | some current =>
          if isProtected || delta ≤ 1 then walk.line number column pending rest
          else
            let (mappings, reports) := walk.line number column none rest
            (current :: walk.rangeEnd current column delta :: mappings, reports)
        | none => walk.line number column pending rest
      | .mapped _ _ snippetLine snippetColumn nameIndex =>
        let name := nameIndex.bind walk.map.name
        if isProtected || name.any walk.analysis.isSynthetic then
          walk.line number column pending rest
        else
          match walk.candidate? number column snippetLine snippetColumn name with
          | none =>
            let (mappings, reports) := walk.line number column pending rest
            (mappings, walk.outside number column snippetLine :: reports)
          | some candidate =>
            let (settled, next) := walk.hold pending candidate
            let (mappings, reports) := walk.line number column (some next) rest
            (settled.toList ++ mappings, reports)

/-- The segments of a line that count: only the first one on the line of an anchor. -/
def kept (walk : Walk) (number : Nat) (segments : List Segment) : List Segment :=
  if walk.analysis.anchorLines.contains number then segments.take 1 else segments

/-- The mappings and reports of a list of lines, the first of which has the given number. -/
def linesFrom (walk : Walk) : Nat → List (List Segment) → List Mapping × List Diagnostic
  | _, [] => ([], [])
  | number, segments :: rest =>
    let (mappings, reports) := walk.line number 0 none (walk.kept number segments)
    let (moreMappings, moreReports) := walk.linesFrom (number + 1) rest
    (mappings ++ moreMappings, reports ++ moreReports)

/-- The mappings and reports of a whole map. -/
def coalesce (walk : Walk) : List Mapping × List Diagnostic :=
  walk.linesFrom 0 walk.map.lines

end Walk

end Inlay
