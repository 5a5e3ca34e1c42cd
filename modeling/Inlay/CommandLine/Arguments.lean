/-
**Arguments of the command line.**

The first argument names what to do; the others are options with a value each, and files.  A value
stands in the next argument or after an equals sign.

Main definitions:

* `Inlay.CommandLine.Setting` — an option as the command line knows it;
* `Inlay.CommandLine.Given`, `Inlay.CommandLine.readGiven` — the options and files that were given;
* `Inlay.CommandLine.Request`, `Inlay.CommandLine.Request.ofArguments?` — what is asked for.
-/
import Inlay.Command
import Inlay.CommandLine.Path

set_option autoImplicit false

namespace Inlay.CommandLine

/-! ### Options and files -/

/-- An option as the command line knows it. -/
structure Setting where
  /-- The name after two hyphens. -/
  name : String
  /-- The letter after one hyphen. -/
  letter : Option Char := none
  /-- Whether it can be given several times, with any text as its value. -/
  isList : Bool := false
  deriving DecidableEq, Repr

/-- The options and files that were given, in order. -/
structure Given where
  values : List (String × String) := []
  files : List String := []
  deriving DecidableEq, Repr

namespace Given

/-- Puts a value in front; an option that is no list may not come twice. -/
def addValue (given : Given) (setting : Setting) (value : String) : Option Given :=
  if !setting.isList && given.values.any (fun entry => entry.1 == setting.name) then none
  else some { given with values := (setting.name, value) :: given.values }

/-- Puts a file in front. -/
def addFile (given : Given) (file : String) : Given :=
  { given with files := file :: given.files }

/-- All values of an option. -/
def all (given : Given) (name : String) : List String :=
  (given.values.filter fun entry => entry.1 == name).map Prod.snd

/-- The value of an option. -/
def value? (given : Given) (name : String) : Option String :=
  given.values.lookup name

end Given

/-- What an argument is. -/
inductive Argument where
  /-- An option, perhaps with its value. -/
  | setting (setting : Setting) (value : Option String)
  /-- From here on there are only files. -/
  | onlyFiles
  | file (name : String)
  /-- An option that nobody knows. -/
  | unknown
  deriving DecidableEq, Repr

/-- What an argument is, given the options there are. -/
def classify (settings : List Setting) (argument : String) : Argument :=
  match argument.toList with
  | ['-', '-'] => .onlyFiles
  | '-' :: '-' :: rest =>
    let name := String.ofList (rest.takeWhile (· != '='))
    let value :=
      match rest.dropWhile (· != '=') with
      | _ :: value => some (String.ofList value)
      | [] => none
    match settings.find? fun setting => setting.name == name with
    | some setting => .setting setting value
    | none => .unknown
  | '-' :: letter :: rest =>
    let value :=
      match rest with
      | [] => none
      | '=' :: value => some (String.ofList value)
      | value => some (String.ofList value)
    match settings.find? fun setting => setting.letter == some letter with
    | some setting => .setting setting value
    | none => .unknown
  | _ => .file argument

/-- Whether an argument can be the value of the option before it: it may look like an option only if
the option takes any text. -/
def Setting.accepts (setting : Setting) (value : String) : Bool :=
  setting.isList || value.toList.head? != some '-' || value == "-"

/-- The options and files among the arguments. -/
def readGiven (settings : List Setting) : List String → Option Given
  | [] => some {}
  | argument :: rest =>
    match classify settings argument with
    | .onlyFiles => some { files := rest }
    | .file name => (readGiven settings rest).map (·.addFile name)
    | .unknown => none
    | .setting setting (some value) => (readGiven settings rest).bind (·.addValue setting value)
    | .setting setting none =>
      match rest with
      | [] => none
      | value :: rest =>
        if setting.accepts value then (readGiven settings rest).bind (·.addValue setting value)
        else none

/-! ### Values -/

/-- A path; it may not be empty. -/
def path? (text : String) : Option Path :=
  if text.isEmpty then none else some (.ofText text)

/-- A number below `2 ^ 64`, perhaps with a plus sign. -/
def number? (text : String) : Option Nat :=
  let digits :=
    match text.toList with
    | '+' :: rest => rest
    | cs => cs
  if digits.isEmpty || !digits.all Char.isDigit then none
  else
    let n := Shell.numberOf digits
    if n < Word.size then some n else none

namespace Given

/-- The value of an option that must be given. -/
def required {α : Type} (given : Given) (name : String) (read : String → Option α) : Option α :=
  (given.value? name).bind read

/-- The value of an option that may be given; a value that means nothing is refused. -/
def optional {α : Type} (given : Given) (name : String) (read : String → Option α) :
    Option (Option α) :=
  match given.value? name with
  | none => some none
  | some text => (read text).map some

end Given

/-! ### Requests -/

/-- Asks for the position map of one snippet. -/
structure NormalizeRequest where
  host : Path
  code : Path
  nativeMap : Path
  /-- The host line of the first snippet line, counted from one. -/
  startLine : Nat
  /-- The indentation taken from every line of the snippet. -/
  indent : Nat
  config : Option Path
  /-- The file to write, in place of the output. -/
  output : Option Path
  deriving DecidableEq, Repr

/-- Asks for documents with their snippets compiled. -/
structure PreprocessRequest where
  files : List Path
  compiler : Command
  /-- The directory to write to, in place of that of each document. -/
  directory : Option Path
  config : Option Path
  deriving DecidableEq, Repr

/-- Asks where a generated position comes from. -/
structure LookupRequest where
  map : Path
  /-- Counted from one. -/
  line : Nat
  /-- Counted from zero. -/
  column : Nat
  deriving DecidableEq, Repr

/-- What the command line asks for. -/
inductive Request where
  | version
  | normalize (request : NormalizeRequest)
  | preprocess (request : PreprocessRequest)
  | lookup (request : LookupRequest)
  deriving DecidableEq, Repr

/-- The options of a position map request. -/
def NormalizeRequest.settings : List Setting :=
  [{ name := "host" }, { name := "code" }, { name := "native-map" }, { name := "start-line" },
    { name := "indent" }, { name := "config" }, { name := "output", letter := some 'o' }]

/-- The position map request with the given options. -/
def NormalizeRequest.ofGiven? (given : Given) : Option NormalizeRequest := do
  guard given.files.isEmpty
  return {
    host := ← given.required "host" path?
    code := ← given.required "code" path?
    nativeMap := ← given.required "native-map" path?
    startLine := (← given.optional "start-line" number?).getD 1
    indent := (← given.optional "indent" number?).getD 0
    config := ← given.optional "config" path?
    output := ← given.optional "output" path? }

/-- The options of a document request. -/
def PreprocessRequest.settings : List Setting :=
  [{ name := "compiler" }, { name := "compiler-arg", isList := true }, { name := "out-dir" },
    { name := "config" }]

/-- The document request with the given options and files. -/
def PreprocessRequest.ofGiven? (given : Given) : Option PreprocessRequest := do
  guard !given.files.isEmpty
  return {
    files := ← given.files.mapM path?
    compiler :=
      { program := ← given.required "compiler" some
        arguments := given.all "compiler-arg" }
    directory := ← given.optional "out-dir" path?
    config := ← given.optional "config" path? }

/-- The options of a position request. -/
def LookupRequest.settings : List Setting :=
  [{ name := "map" }, { name := "line" }, { name := "column" }]

/-- The position request with the given options. -/
def LookupRequest.ofGiven? (given : Given) : Option LookupRequest := do
  guard given.files.isEmpty
  return {
    map := ← given.required "map" path?
    line := ← given.required "line" number?
    column := ← given.required "column" number? }

/-- What the arguments ask for, if they mean anything. -/
def Request.ofArguments? : List String → Option Request
  | "--version" :: _ | "-V" :: _ => some .version
  | "normalize" :: rest => do
    let given ← readGiven NormalizeRequest.settings rest
    return .normalize (← NormalizeRequest.ofGiven? given)
  | "preprocess" :: rest => do
    let given ← readGiven PreprocessRequest.settings rest
    return .preprocess (← PreprocessRequest.ofGiven? given)
  | "lookup" :: rest => do
    let given ← readGiven LookupRequest.settings rest
    return .lookup (← LookupRequest.ofGiven? given)
  | _ => none

end Inlay.CommandLine
