/-
**Diagnostics.**

Normalisation never fails: whatever it skips is reported as a diagnostic with a stable code, in the
order in which it was met.

Main definitions:

* `Inlay.DiagnosticCode` with its code text, kind and title;
* `Inlay.Diagnostic` — one report;
* `Inlay.Diagnostic.text` — the report as one line, positions counted from one;
* `Inlay.Diagnostic.json` — the report for tools; `Inlay.Diagnostic.record` — its stored form;
* `Inlay.Diagnostic.ofText?` — reading the stored form back.
-/
import Inlay.Json.Printer
import Inlay.Json.Reader
import Inlay.Json.Record
import Inlay.Word

set_option autoImplicit false

namespace Inlay

/-- How serious a report is. -/
inductive DiagnosticKind where
  /-- Something was skipped, and the map is less precise for it. -/
  | warning
  /-- An expected loss of precision. -/
  | info
  deriving DecidableEq, Repr

namespace DiagnosticKind

/-- The kind at the start of a line. -/
def label : DiagnosticKind → String
  | warning => "Warning"
  | info => "Info"

/-- The kind in JSON. -/
def key : DiagnosticKind → String
  | warning => "warning"
  | info => "info"

/-- The kind with the given JSON key. -/
def ofKey? : String → Option DiagnosticKind
  | "warning" => some warning
  | "info" => some info
  | _ => none

end DiagnosticKind

/-- What a report is about. -/
inductive DiagnosticCode where
  /-- A segment means nothing. -/
  | malformedSegment
  /-- A position lies outside the host document. -/
  | outOfBounds
  /-- No syntax tree could be built. -/
  | protectionDisabled
  /-- The line of an anchor has no positioned first segment. -/
  | overrideNoSegment
  /-- The name of an anchor is not a word of its host line. -/
  | overrideNotFound
  /-- The compiler could not be run, or refused the snippet. -/
  | compilerUnavailable
  /-- The compiler returned code without a map. -/
  | missingNativeMap
  deriving DecidableEq, Repr

namespace DiagnosticCode

/-- All codes. -/
def all : List DiagnosticCode :=
  [malformedSegment, outOfBounds, protectionDisabled, overrideNoSegment, overrideNotFound,
    compilerUnavailable, missingNativeMap]

/-- The stable text of a code. -/
def key : DiagnosticCode → String
  | malformedSegment => "M-1-1"
  | outOfBounds => "M-1-2"
  | protectionDisabled => "M-2-1"
  | overrideNoSegment => "M-3-1"
  | overrideNotFound => "M-3-2"
  | compilerUnavailable => "M-4-1"
  | missingNativeMap => "M-4-2"

/-- The code with the given text. -/
def ofKey? (text : String) : Option DiagnosticCode :=
  all.find? fun code => code.key == text

/-- How serious reports with this code are. -/
def kind : DiagnosticCode → DiagnosticKind
  | missingNativeMap => .info
  | _ => .warning

/-- The code in words. -/
def title : DiagnosticCode → String
  | malformedSegment => "Malformed map segment skipped"
  | outOfBounds => "Mapping outside host document skipped"
  | protectionDisabled => "Loop protection disabled"
  | overrideNoSegment => "Override skipped: no positioned segment"
  | overrideNotFound => "Override skipped: identifier not found"
  | compilerUnavailable => "Snippet passed through uncompiled"
  | missingNativeMap => "Compiler returned no map"

end DiagnosticCode

/-- A place in generated code, lines and UTF-16 columns counted from zero. -/
structure GeneratedPosition where
  line : Nat
  column : Nat
  deriving DecidableEq, Repr

/-- One report. -/
structure Diagnostic where
  /-- What it is about. -/
  code : DiagnosticCode
  /-- How serious it is. -/
  kind : DiagnosticKind
  /-- What happened. -/
  detail : String
  /-- Where in the generated code. -/
  generated : Option GeneratedPosition := none
  /-- The host line involved. -/
  hostLine : Option Nat := none
  deriving DecidableEq, Repr

namespace Diagnostic

/-- A report of the kind that goes with its code. -/
def of (code : DiagnosticCode) (detail : String) : Diagnostic where
  code := code
  kind := code.kind
  detail := detail

/-- The report placed in the generated code. -/
def atGenerated (diagnostic : Diagnostic) (line column : Nat) : Diagnostic :=
  { diagnostic with generated := some { line, column } }

/-- The report placed on a host line. -/
def onHostLine (diagnostic : Diagnostic) (line : Nat) : Diagnostic :=
  { diagnostic with hostLine := some line }

/-- The report as one line, positions counted from one. -/
def text (diagnostic : Diagnostic) : String :=
  let generated :=
    match diagnostic.generated with
    | some place =>
      " (generated " ++ Json.intText (Word.add place.line 1) ++ ":"
        ++ Json.intText (Word.add place.column 1) ++ ")"
    | none => ""
  let host :=
    match diagnostic.hostLine with
    | some line => " (host line " ++ Json.intText (Word.add line 1) ++ ")"
    | none => ""
  diagnostic.kind.label ++ " [" ++ diagnostic.code.key ++ "]: " ++ diagnostic.code.title
    ++ generated ++ host ++ ": " ++ diagnostic.detail

/-- A place as a JSON object. -/
def placeJson (place : GeneratedPosition) : Json :=
  .obj [("line", .int place.line), ("column", .int place.column)]

/-- The members for the places that are set. -/
def placeMembers (hostLineKey : String) (diagnostic : Diagnostic) : List (String × Json) :=
  (diagnostic.generated.map fun place => ("generated", placeJson place)).toList
    ++ (diagnostic.hostLine.map fun line => (hostLineKey, Json.int line)).toList

/-- The report for tools. -/
def json (diagnostic : Diagnostic) : Json :=
  .obj <|
    [("code", .str diagnostic.code.key), ("kind", .str diagnostic.kind.key),
      ("title", .str diagnostic.code.title), ("detail", .str diagnostic.detail)]
    ++ placeMembers "hostLine" diagnostic

/-- The stored form: the title is left out, since the code gives it. -/
def record (diagnostic : Diagnostic) : Json :=
  .obj <|
    [("code", .str diagnostic.code.key), ("kind", .str diagnostic.kind.key),
      ("detail", .str diagnostic.detail)]
    ++ placeMembers "host_line" diagnostic

/-! ### Reading the stored form -/

/-- A string that names one of several values. -/
def keyed {α : Type} (ofKey? : String → Option α) (json : Json) : Except Json.ShapeError α := do
  match ofKey? (← Json.asString json) with
  | some found => return found
  | none => .error .mismatch

/-- A place written as a record. -/
def placeOfJson (json : Json) : Except Json.ShapeError GeneratedPosition := do
  match ← Json.fields [("line", .required), ("column", .required)] json with
  | [line, column] =>
    let line ← Json.asRequired Json.asNat line
    let column ← Json.asRequired Json.asNat column
    return { line, column }
  | _ => .error .mismatch

/-- A report written as a record. -/
def ofJson (json : Json) : Except Json.ShapeError Diagnostic := do
  match ← Json.fields
      [("code", .required), ("kind", .required), ("detail", .required), ("generated", .optional),
        ("host_line", .optional)] json with
  | [code, kind, detail, generated, hostLine] =>
    let code ← Json.asRequired (keyed DiagnosticCode.ofKey?) code
    let kind ← Json.asRequired (keyed DiagnosticKind.ofKey?) kind
    let detail ← Json.asRequired Json.asString detail
    let generated ← Json.asOptional placeOfJson generated
    let hostLine ← Json.asOptional Json.asNat hostLine
    return { code, kind, detail, generated, hostLine }
  | _ => .error .mismatch

/-- A report in a JSON text. -/
def ofText? (text : String) : Option Diagnostic :=
  (Json.parse? text).bind fun json => (ofJson json).toOption

end Diagnostic

end Inlay
