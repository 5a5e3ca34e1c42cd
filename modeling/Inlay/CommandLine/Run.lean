/-
**The command line.**

A run reads the files it is asked to read, prints to the output or writes files, reports diagnostics
one on a line, and stops at the first failure.  It leaves compiling snippets and reading syntax to tools.

Main definitions:

* `Inlay.CommandLine.Tools` — what a run leaves to others;
* `Inlay.CommandLine.Failure` — why a run stopped, with its wording;
* `Inlay.CommandLine.Printed` — what a run prints;
* `Inlay.CommandLine.Outcome`, `Inlay.CommandLine.run` — a run from its arguments.
-/
import Inlay.CommandLine.Arguments
import Inlay.CommandLine.Files
import Inlay.Map.Decoded
import Inlay.Options
import Inlay.Syntax.Program

set_option autoImplicit false

namespace Inlay.CommandLine

/-- What a run leaves to others. -/
structure Tools where
  /-- What a program answers to the snippet of a file. -/
  compile : Command → String → String → Answer
  /-- How the syntax tree of a code is built. -/
  reader : SyntaxReader

/-- The programs and the grammar that are known. -/
def Tools.known : Tools :=
  ⟨Command.compile, readSyntax⟩

/-- Why a run stopped. -/
inductive Failure where
  /-- Lines are counted from one. -/
  | lineZero
  /-- The options cannot be read. -/
  | options (path : String)
  /-- A pattern of the options cannot be read. -/
  | pattern (option : PatternOption)
  /-- A file is no text, or is not there. -/
  | unreadable (what path : String)
  /-- A text means nothing. -/
  | malformed (what path : String)
  | unwritable (path : String)
  | noDirectory (path : String)
  /-- Some documents could not be read or written. -/
  | documents (failed total : Nat)
  | mappings (error : MappingError)
  | noMapping (line column : Nat)
  deriving DecidableEq, Repr

/-- The failure in words. -/
def Failure.message : Failure → String
  | lineZero => "--start-line is 1-based"
  | options path => "Failed to load options from " ++ path
  | pattern option => "Invalid pattern for `" ++ option.key ++ "`: regex parse error:"
  | unreadable what path => "Failed to read " ++ what ++ " " ++ path
  | malformed what path => "Failed to parse " ++ what ++ " " ++ path
  | unwritable path => "Failed to write map to " ++ path
  | noDirectory path => "Failed to create output directory " ++ path
  | documents failed total => toString failed ++ " of " ++ toString total ++ " files failed"
  | mappings error => error.message
  | noMapping line column =>
    "No mapping for generated position " ++ toString line ++ ":" ++ toString column

/-- What a run prints. -/
structure Printed where
  output : String := ""
  /-- The reports, each on a line of its own. -/
  reports : List String := []
  deriving DecidableEq, Repr

/-- A run: it prints, and may stop. -/
abbrev Session (m : Type → Type) := ExceptT Failure (StateT Printed m)

section

variable {m : Type → Type} [Monad m]

/-- Prints a line. -/
def printLine (text : String) : Session m Unit :=
  modify fun printed => { printed with output := printed.output ++ text ++ "\n" }

/-- Reports what was met in a document. -/
def report (path : String) (diagnostics : List Diagnostic) : Session m Unit :=
  modify fun printed =>
    { printed with
      reports := printed.reports ++ diagnostics.map fun diagnostic =>
        path ++ ": " ++ diagnostic.text }

/-- A value that must be there. -/
def orFail {α : Type} (failure : Failure) : Option α → Session m α
  | some value => pure value
  | none => throw failure

/-- The text of a file that must be there. -/
def Files.require (files : Files m) (what : String) (path : Path) : Session m String := do
  orFail (.unreadable what path.text) (← files.read path)

/-- The rules in the options file, or those that hold without one. -/
def Files.rules (files : Files m) (config : Option Path) : Session m Rules := do
  let options ←
    match config with
    | none => pure {}
    | some path => do
      let text ← orFail (.options path.text) (← files.read path)
      orFail (.options path.text) (Options.ofText? text)
  match options.rules with
  | .ok rules => pure rules
  | .error option => throw (.pattern option)

/-! ### Requests -/

/-- Prints or writes the position map of one snippet. -/
def normalize (tools : Tools) (files : Files m) (request : NormalizeRequest) : Session m Unit := do
  if request.startLine = 0 then throw .lineZero
  let rules ← files.rules request.config
  let text ← files.require "host document" request.host
  let code ← files.require "code" request.code
  let mapText ← files.require "native map" request.nativeMap
  let map ← orFail (.malformed "native map" request.nativeMap.text) (NativeMap.ofText? mapText)
  let (result, diagnostics) := Normalizer.normalize ⟨rules, tools.reader⟩ code map
    { path := request.host.text, text }
    { startLine := request.startLine - 1, removedIndent := request.indent, firstLineColumn := 0 }
  report request.host.text diagnostics
  match request.output with
  | none => printLine result.json.compact
  | some path =>
    if !(← files.write path result.json.compact) then throw (.unwritable path.text)

/-- Writes the position map of a block beside the document. -/
def writeMap (files : Files m) (output : Path) (kind : ScriptKind) (block : Option Block) :
    m Bool :=
  match block.bind Block.map with
  | some map => files.write (mapPath output kind) map.json.compact
  | none => pure true

/-- Writes a compiled document and its position maps, and says whether it could. -/
def writeDocument (files : Files m) (output : Path) (document : Document) : m Bool := do
  if ← files.write output document.code then
    if ← writeMap files output .moduleScript document.moduleBlock then
      writeMap files output .instanceScript document.instanceBlock
    else pure false
  else pure false

/-- Compiles the snippets of a document, and says whether it could be read and written. -/
def preprocessFile (tools : Tools) (files : Files m) (request : PreprocessRequest) (rules : Rules)
    (path : Path) : Session m Bool := do
  match ← files.read path with
  | none => pure false
  | some text =>
    let (document, diagnostics) :=
      Normalizer.documentBy ⟨rules, tools.reader⟩ (tools.compile request.compiler)
        { path := path.text, text }
    report path.text diagnostics
    let output := outputPath path request.directory rules.outputLang
    liftM (writeDocument files output document : m Bool)

/-- Compiles the snippets of documents; one that cannot be read or written does not stop the others. -/
def preprocess (tools : Tools) (files : Files m) (request : PreprocessRequest) : Session m Unit := do
  let rules ← files.rules request.config
  match request.directory with
  | some directory =>
    if !(← files.makeDirectory directory) then throw (.noDirectory directory.text)
  | none => pure ()
  let done ← request.files.mapM (preprocessFile tools files request rules)
  let failed := done.countP (!·)
  if failed ≠ 0 then throw (.documents failed done.length)

/-- Prints where a generated position comes from. -/
def lookup (files : Files m) (request : LookupRequest) : Session m Unit := do
  let text ← files.require "map" request.map
  let map ← orFail (.malformed "map" request.map.text) (PositionMap.ofText? text)
  match map.lookup request.line request.column with
  | .error error => throw (.mappings error)
  | .ok none => throw (.noMapping request.line request.column)
  | .ok (some position) => printLine position.json.compact

/-- The version line. -/
def versionLine : String := "embedmap 0.1.0"

/-- Does what is asked for. -/
def perform (tools : Tools) (files : Files m) : Request → Session m Unit
  | .version => printLine versionLine
  | .normalize request => normalize tools files request
  | .preprocess request => preprocess tools files request
  | .lookup request => lookup files request

end

/-! ### Runs -/

/-- How a run ended. -/
inductive Outcome where
  /-- The arguments mean nothing. -/
  | usage
  /-- The run printed something, and perhaps stopped. -/
  | finished (printed : Printed) (failure : Option Failure)
  deriving DecidableEq, Repr

namespace Outcome

/-- The status of the run. -/
def status : Outcome → Nat
  | usage => 2
  | finished _ none => 0
  | finished _ (some _) => 1

/-- What the run printed. -/
def output : Outcome → String
  | usage => ""
  | finished printed _ => printed.output

/-- What the run complained about: its reports, and last its failure. -/
def complaints : Outcome → List String
  | usage => []
  | finished printed failure =>
    printed.reports ++ (failure.map fun failure => "Error: " ++ failure.message).toList

end Outcome

/-- Runs the command line with the given tools and arguments. -/
def runWith {m : Type → Type} [Monad m] (tools : Tools) (files : Files m) (arguments : List String) :
    m Outcome :=
  match Request.ofArguments? arguments with
  | none => pure .usage
  | some request => do
    let (result, printed) ← (perform tools files request).run.run {}
    match result with
    | .ok _ => return .finished printed none
    | .error failure => return .finished printed (some failure)

/-- Runs the command line with the given arguments. -/
def run {m : Type → Type} [Monad m] (files : Files m) (arguments : List String) : m Outcome :=
  runWith .known files arguments

end Inlay.CommandLine
