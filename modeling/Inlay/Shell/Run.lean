/-
**Running shell scripts.**

A script runs on the bytes of its input and leaves what it printed, what it complained about and how
it ended.

Main definitions:

* `Inlay.Shell.Frame` — the name and the arguments of a script;
* `Inlay.Shell.expand` — the fields of a word;
* `Inlay.Shell.State` — the streams between two steps;
* `Inlay.Shell.Finished`, `Inlay.Shell.run` — a run of a script.
-/
import Inlay.Shell.Format
import Inlay.Shell.Script

set_option autoImplicit false

namespace Inlay.Shell

/-- The name and the arguments of a script. -/
structure Frame where
  name : String
  arguments : List String := []

/-- How a program ended. -/
inductive Ending where
  | exited (status : Nat)
  /-- Stopped by a signal. -/
  | killed
  deriving DecidableEq, Repr

/-- The streams and the last status between two steps. -/
structure State where
  /-- The input that nobody has read. -/
  input : List UInt8
  output : List UInt8 := []
  errors : List UInt8 := []
  status : Nat := 0

/-- What a program leaves behind. -/
structure Finished where
  output : List UInt8
  errors : List UInt8
  ending : Ending

/-! ### Expansion -/

/-- The text that stands for the shell's own process; a script can only hand it on. -/
def processText : String := "2"

/-- The value of a parameter as one text. -/
def Parameter.value (frame : Frame) (status : Nat) : Parameter → String
  | .argument 0 => frame.name
  | .argument (n + 1) => frame.arguments[n]?.getD ""
  | .arguments | .joined => String.intercalate " " frame.arguments
  | .count => toString frame.arguments.length
  | .status => toString status
  | .process => processText

/-- The fields of a word so far: the finished ones, and the one that goes on, if any. -/
structure Fields where
  finished : List String := []
  current : Option String := none

namespace Fields

/-- Adds text to the current field. -/
def add (fields : Fields) (text : String) : Fields :=
  { fields with current := some (fields.current.getD "" ++ text) }

/-- Ends the current field. -/
def close (fields : Fields) : Fields :=
  { finished := fields.finished ++ fields.current.toList }

/-- Adds texts that are fields of their own; the first and the last join their neighbours. -/
def addEach (fields : Fields) : List String → Fields
  | [] => fields
  | [text] => fields.add text
  | text :: rest => (fields.add text).close.addEach rest

/-- Adds a text that blanks divide. -/
def addDivided (fields : Fields) (text : String) : Fields :=
  text.toList.foldl
    (fun fields c =>
      if c == ' ' || c == '\t' || c == '\n' then fields.close else fields.add c.toString)
    fields

end Fields

/-- The fields of a word. -/
def expand (frame : Frame) (status : Nat) (word : Word) : List String :=
  let step (fields : Fields) : Piece → Fields
    | .text text => fields.add text
    | .parameter .arguments true => fields.addEach frame.arguments
    | .parameter parameter true => fields.add (parameter.value frame status)
    | .parameter parameter false => fields.addDivided (parameter.value frame status)
  (word.foldl step {}).close.finished

/-! ### Streams -/

/-- Where bytes end up. -/
inductive Sink where
  | stream (stream : Stream)
  | nowhere
  deriving DecidableEq

/-- Where the streams of a command go. -/
structure Routes where
  output : Sink := .stream .output
  errors : Sink := .stream .errors

namespace Routes

/-- Where a stream goes. -/
def sink (routes : Routes) : Stream → Sink
  | .output => routes.output
  | .errors => routes.errors

/-- Sends a stream to a sink. -/
def send (routes : Routes) (stream : Stream) (sink : Sink) : Routes :=
  match stream with
  | .output => { routes with output := sink }
  | .errors => { routes with errors := sink }

/-- Applies a redirection. -/
def apply (routes : Routes) : Redirect → Routes
  | .join stream target => routes.send stream (routes.sink target)
  | .discard stream => routes.send stream .nowhere
  | .noInput => routes

end Routes

/-- Adds bytes to what a sink has received. -/
def State.write (state : State) (bytes : List UInt8) : Sink → State
  | .stream .output => { state with output := state.output ++ bytes }
  | .stream .errors => { state with errors := state.errors ++ bytes }
  | .nowhere => state

/-! ### Commands -/

/-- What a single command does. -/
structure Effect where
  output : List UInt8 := []
  errors : List UInt8 := []
  status : Nat := 0
  /-- Whether it reads the input to its end. -/
  readsInput : Bool := false
  /-- Whether the script ends with it, and how. -/
  ending : Option Ending := none

/-- The number in a text of digits. -/
def statusNumber? (text : String) : Option Nat :=
  if text.toList.all Char.isDigit && !text.isEmpty then some (numberOf text.toList) else none

/-- A complaint of the shell, with the script's name and line. -/
def complaint (frame : Frame) (line : Nat) (text : String) : List UInt8 :=
  Text.Utf8.encode
    (frame.name ++ ": " ++ toString line ++ ": " ++ text ++ "\n").toList

/-- Leaving the script: with the status given, else with that of the last command. -/
def leave (frame : Frame) (line status : Nat) : List String → Effect
  | [] => { ending := some (.exited status) }
  | word :: _ =>
    match statusNumber? word with
    | some n => { ending := some (.exited (n % 256)) }
    | none =>
      { errors := complaint frame line ("exit: Illegal number: " ++ word)
        ending := some (.exited 2) }

/-- Sending a signal to the shell itself; every signal but the null signal ends it. -/
def signal (words : List String) : Effect :=
  if words.getLast? == some processText then
    match words with
    | "-0" :: _ => {}
    | _ => { ending := some .killed }
  else { status := 1 }

/-- Printing by a format. -/
def printFormat (frame : Frame) (line : Nat) (words : List String) : Effect :=
  match (match words with
    | "--" :: rest => rest
    | _ => words) with
  | [] => { errors := complaint frame line "printf: usage: printf format [arg ...]", status := 2 }
  | text :: arguments =>
    let formatted := format text arguments
    match formatted.unknown with
    | some directive =>
      { output := formatted.bytes
        errors := complaint frame line ("printf: %" ++ directive.toString ++ ": invalid directive")
        status := 2 }
    | none => { output := formatted.bytes }

/-- What a command does. -/
def effect (frame : Frame) (line : Nat) (state : State) : List String → Effect
  | [] => {}
  | name :: words =>
    match name with
    | ":" | "true" => {}
    | "false" => { status := 1 }
    | "cat" => { output := state.input, readsInput := true }
    | "echo" => { output := echoBytes words }
    | "printf" => printFormat frame line words
    | "exit" => leave frame line state.status words
    | "kill" => signal words
    | _ => { errors := complaint frame line (name ++ ": not found"), status := 127 }

/-! ### Scripts -/

/-- Whether a step is taken after the given status. -/
def Condition.holds (status : Nat) : Condition → Bool
  | .always => true
  | .onSuccess => status == 0
  | .onFailure => status != 0

/-- The streams after a step, and how the script ended if it did. -/
def Step.take (step : Step) (frame : Frame) (state : State) : State × Option Ending :=
  let state := if step.redirects.contains .noInput then { state with input := [] } else state
  let effect := effect frame step.line state (step.words.flatMap (expand frame state.status))
  let routes := step.redirects.foldl Routes.apply {}
  let written := (state.write effect.output routes.output).write effect.errors routes.errors
  ({ written with
      input := if effect.readsInput then [] else written.input
      status := effect.status },
    effect.ending)

/-- Runs steps one after the other. -/
def runSteps (frame : Frame) : List Step → State → Finished
  | [], state => ⟨state.output, state.errors, .exited state.status⟩
  | step :: rest, state =>
    if step.condition.holds state.status then
      match step.take frame state with
      | (state, some ending) => ⟨state.output, state.errors, ending⟩
      | (state, none) => runSteps frame rest state
    else runSteps frame rest state

/-- Runs a script on an input. -/
def run (frame : Frame) (script : String) (input : List UInt8) : Finished :=
  match readScript script with
  | .ok steps => runSteps frame steps { input }
  | .error fault => ⟨[], complaint frame 1 fault.message, .exited 2⟩

end Inlay.Shell
