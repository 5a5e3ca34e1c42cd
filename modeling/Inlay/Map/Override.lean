/-
**Mappings of anchors.**

An anchor is mapped by finding its name on the host line from which its generated line came.  It gets
one mapping for its start and one for its end.

Main definitions:

* `Inlay.Anchor.resolve` — the host line and the column of an anchor's name, or why there is none;
* `Inlay.Anchor.mappings` — the two mappings of an anchor;
* `Inlay.overrides` — the mappings and reports of all anchors of an analysis.
-/
import Inlay.Map.Coalesced
import Inlay.Text.Words

set_option autoImplicit false

namespace Inlay

namespace Anchor

/-- The report of an anchor on a line without a positioned first segment. -/
def noSegment (anchor : Anchor) : Diagnostic :=
  (Diagnostic.of .overrideNoSegment
    ("no positioned first segment for `" ++ anchor.name ++ "`")).atGenerated anchor.line
      anchor.start

/-- The report of an anchor whose host line is not there. -/
def outside (anchor : Anchor) (hostLine : Nat) : Diagnostic :=
  ((Diagnostic.of .outOfBounds
    ("host line for `" ++ anchor.name ++ "` is outside the document")).atGenerated anchor.line
      anchor.start).onHostLine hostLine

/-- The report of an anchor whose name is not on its host line. -/
def notFound (anchor : Anchor) (hostLine : Nat) : Diagnostic :=
  ((Diagnostic.of .overrideNotFound
    ("`" ++ anchor.name ++ "` does not occur as a word on its host line")).atGenerated
      anchor.line anchor.start).onHostLine hostLine

/-- The column at which a name stands as a word of a line. -/
def columnIn (name line : String) : Option Nat :=
  (Text.findWord name.toList line.toList).bind (Text.columnOfByte line.toList)

/-- The host position of an anchor's name. -/
def resolve (anchor : Anchor) (map : NativeMap) (host : Host) (placement : Placement) :
    Except Diagnostic HostPosition :=
  match map.firstSegment anchor.line with
  | some (.mapped _ _ snippetLine _ _) =>
    let hostLine := placement.hostLine snippetLine
    match host.lineText hostLine with
    | none => .error (anchor.outside hostLine)
    | some text =>
      match columnIn anchor.name text with
      | none => .error (anchor.notFound hostLine)
      | some column => .ok { line := hostLine, column }
  | _ => .error anchor.noSegment

/-- A mapping of an anchor at a generated column. -/
def mapping (anchor : Anchor) (column : Nat) (place : HostPosition) : Mapping where
  line := anchor.line
  column := column
  target := { line := place.line, column := place.column, name := some anchor.name }
  origin := .override

/-- The mappings of the start and the end of an anchor whose name stands at a host position. -/
def mappings (anchor : Anchor) (place : HostPosition) : List Mapping :=
  let length := Text.utf16Length anchor.name.toList
  [anchor.mapping anchor.start place,
    anchor.mapping anchor.stop { place with column := place.column + length }]

end Anchor

/-- The mappings and reports of a list of anchors. -/
def overridesOf (analysis : Analysis) (map : NativeMap) (host : Host) (placement : Placement) :
    List Anchor → List Mapping × List Diagnostic
  | [] => ([], [])
  | anchor :: rest =>
    let (mappings, reports) := overridesOf analysis map host placement rest
    if analysis.isSynthetic anchor.name then (mappings, reports)
    else
      match anchor.resolve map host placement with
      | .error report => (mappings, report :: reports)
      | .ok place => (anchor.mappings place ++ mappings, reports)

/-- The mappings and reports of the anchors of an analysis. -/
def overrides (analysis : Analysis) (map : NativeMap) (host : Host) (placement : Placement) :
    List Mapping × List Diagnostic :=
  overridesOf analysis map host placement analysis.anchors

end Inlay
