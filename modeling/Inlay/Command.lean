/-
**Compilers that are programs.**

A compiler can be a program: it gets the snippet as its input and the name of the file after its other
arguments, prints its answer, and complains with a status other than zero.  The programs known here
are the command shell and the two that only succeed or fail.

Main definitions:

* `Inlay.Program`, `Inlay.Program.find` — the known programs, by name;
* `Inlay.Program.run` — what a program does with its arguments and its input;
* `Inlay.Command` — a program with arguments;
* `Inlay.Command.compile` — the answer of a program to a snippet.
-/
import Inlay.Document
import Inlay.Shell.Run

set_option autoImplicit false

namespace Inlay

/-- The programs that can be started. -/
inductive Program where
  /-- The command shell. -/
  | shell
  /-- Does nothing, and succeeds. -/
  | succeed
  /-- Does nothing, and fails. -/
  | fail
  deriving DecidableEq, Repr

namespace Program

/-- The program with the given name in the directory of programs. -/
def ofName? : String → Option Program
  | "sh" => some shell
  | "true" => some succeed
  | "false" => some fail
  | _ => none

/-- Paths that exist and are no programs. -/
def notPrograms : List String :=
  ["/dev/null", "/", ".", "..", "/dev", "/tmp", "/bin", "/usr", "/usr/bin", "/etc"]

/-- The program with the given name or path. -/
def find (name : String) : Except StartFault Program :=
  let known := [("", name), ("/bin/", name), ("/usr/bin/", name)].findSome? fun (directory, name) =>
    if directory.toList.isPrefixOf name.toList then
      ofName? (String.ofList (name.toList.drop directory.length))
    else none
  match known with
  | some program => .ok program
  | none => .error (if notPrograms.contains name then .notPermitted else .notFound)

/-- What the shell does with its arguments: a script among them is run with those after it. -/
def runShell (input : List UInt8) : List String → Shell.Finished
  | "-c" :: script :: name :: arguments => Shell.run { name, arguments } script input
  | ["-c", script] => Shell.run { name := "sh" } script input
  | arguments =>
    let first := arguments.headD ""
    let complaint :=
      if first == "-c" then "-c requires an argument"
      else if first.toList.head? == some '-' then
        "Illegal option -" ++ String.ofList ((first.toList.drop 1).take 1)
      else "cannot open " ++ first ++ ": No such file"
    ⟨[], Shell.complaint { name := "sh" } 0 complaint, .exited 2⟩

/-- What a program does with its arguments and its input. -/
def run (program : Program) (arguments : List String) (input : List UInt8) : Shell.Finished :=
  match program with
  | shell => runShell input arguments
  | succeed => ⟨[], [], .exited 0⟩
  | fail => ⟨[], [], .exited 1⟩

end Program

/-- A program with the arguments that come first. -/
structure Command where
  program : String
  arguments : List String := []
  deriving DecidableEq, Repr

/-- A text without white space at either end. -/
def trim (text : String) : String :=
  let front := text.toList.dropWhile Unicode.isSpace
  String.ofList (front.reverse.dropWhile Unicode.isSpace).reverse

/-- What a run of a compiler says about the snippet of a file. -/
def Shell.Finished.answer (finished : Shell.Finished) (file : String) : Answer :=
  let complaint := trim (Text.Utf8.ofBytes finished.errors)
  match finished.ending with
  | .killed => .error (.failed file ("terminated by signal: " ++ complaint))
  | .exited 0 =>
    match Text.Utf8.ofBytes? finished.output with
    | some text => Compiled.ofText file text
    | none => .error (.answer file .notText)
  | .exited status =>
    .error (.failed file ("exited with status " ++ toString status ++ ": " ++ complaint))

namespace Command

/-- What a program answers to the snippet of a file. -/
def compile (command : Command) (snippet file : String) : Answer :=
  match Program.find command.program with
  | .error fault => .error (.unavailable command.program fault)
  | .ok program =>
    (program.run (command.arguments ++ ["--filename", file])
      (Text.Utf8.encode snippet.toList)).answer file

end Command

end Inlay
