/-
**Scripts of the command shell.**

Compilers are often started through one line of shell: a few simple commands with quoted words,
parameters and redirections, one after the other.  This module holds that part of the language.

Main definitions:

* `Inlay.Shell.Word` — a word in pieces, with its parameters unexpanded;
* `Inlay.Shell.Redirect` — where a stream of a command goes;
* `Inlay.Shell.Step` — a simple command, and on what it depends;
* `Inlay.Shell.readScript` — the steps of a script.
-/

set_option autoImplicit false

namespace Inlay.Shell

/-- What a script can ask for. -/
inductive Parameter where
  /-- The argument with the given number; the zeroth is the script's name. -/
  | argument (index : Nat)
  /-- All arguments but the zeroth, each on its own. -/
  | arguments
  /-- All arguments but the zeroth, with a blank between any two. -/
  | joined
  /-- How many arguments there are besides the zeroth. -/
  | count
  /-- The status of the last command. -/
  | status
  /-- The number of the shell's own process. -/
  | process
  deriving DecidableEq, Repr

/-- A piece of a word. -/
inductive Piece where
  | text (text : String)
  /-- A parameter; unless it is quoted, blanks in its value divide the word. -/
  | parameter (parameter : Parameter) (quoted : Bool)
  deriving DecidableEq, Repr

/-- A word, before expansion. -/
abbrev Word := List Piece

/-- The streams that a command writes. -/
inductive Stream where
  | output
  | errors
  deriving DecidableEq, Repr

/-- A redirection. -/
inductive Redirect where
  /-- A stream goes where another one goes. -/
  | join (stream target : Stream)
  /-- A stream is thrown away. -/
  | discard (stream : Stream)
  /-- There is no input. -/
  | noInput
  deriving DecidableEq, Repr

/-- When a step is taken. -/
inductive Condition where
  | always
  /-- Only after a step that succeeded. -/
  | onSuccess
  /-- Only after a step that failed. -/
  | onFailure
  deriving DecidableEq, Repr

/-- A simple command in a script. -/
structure Step where
  condition : Condition
  /-- The line of the script, counted from one. -/
  line : Nat
  words : List Word
  redirects : List Redirect
  deriving DecidableEq, Repr

/-- Why a script cannot be read. -/
inductive ScriptFault where
  | unterminatedQuote
  | endOfFile
  | unexpected (token : String)
  deriving DecidableEq, Repr

/-- The fault in words. -/
def ScriptFault.message : ScriptFault → String
  | unterminatedQuote => "Syntax error: Unterminated quoted string"
  | endOfFile => "Syntax error: end of file unexpected"
  | unexpected token => "Syntax error: \"" ++ token ++ "\" unexpected"

/-! ### Words -/

/-- The number in a list of digits. -/
def numberOf (digits : List Char) : Nat :=
  digits.foldl (fun n c => n * 10 + (c.toNat - '0'.toNat)) 0

/-- The parameter named by a single character. -/
def special? (c : Char) : Option Parameter :=
  if c == '@' then some .arguments
  else if c == '*' then some .joined
  else if c == '#' then some .count
  else if c == '?' then some .status
  else if c == '$' then some .process
  else if c.isDigit then some (.argument (c.toNat - '0'.toNat))
  else none

/-- The parameter named between braces. -/
def braced? (name : List Char) : Option Parameter :=
  match name with
  | [c] => special? c
  | _ => if name.all Char.isDigit && !name.isEmpty then some (.argument (numberOf name)) else none

/-- The parameter after a dollar sign, and what follows. -/
def parameter? : List Char → Option (Parameter × List Char)
  | '{' :: rest =>
    match rest.dropWhile (· != '}'), braced? (rest.takeWhile (· != '}')) with
    | _ :: after, some parameter => some (parameter, after)
    | _, _ => none
  | c :: rest => (special? c).map fun parameter => (parameter, rest)
  | [] => none

/-- Whether a character ends a word. -/
def endsWord (c : Char) : Bool :=
  [' ', '\t', '\n', ';', '&', '|', '<', '>', '(', ')'].contains c

/-- How the next character of a word is read. -/
inductive Quoting where
  | plain
  | single
  | double
  deriving DecidableEq

/-- A character as a piece of its own. -/
def letter (c : Char) : Piece :=
  .text c.toString

/-- The pieces of a word, and what follows it.  Each step uses a character, so one more than the length
of the text is fuel enough. -/
def readWord : Nat → Quoting → List Char → Except ScriptFault (Word × List Char)
  | 0, _, _ => .error .endOfFile
  | _ + 1, .plain, [] => .ok ([], [])
  | _ + 1, _, [] => .error .unterminatedQuote
  | fuel + 1, .single, c :: rest =>
    if c == '\'' then readWord fuel .plain rest
    else do
      let (word, after) ← readWord fuel .single rest
      return (letter c :: word, after)
  | fuel + 1, .double, c :: rest =>
    if c == '"' then readWord fuel .plain rest
    else
      match c, rest with
      | '\\', '\n' :: rest => readWord fuel .double rest
      | '\\', d :: rest =>
        if ['$', '\x60', '"', '\\'].contains d then do
          let (word, after) ← readWord fuel .double rest
          return (letter d :: word, after)
        else do
          let (word, after) ← readWord fuel .double (d :: rest)
          return (letter c :: word, after)
      | _, _ =>
        match (if c == '$' then parameter? rest else none) with
        | some (parameter, rest) => do
          let (word, after) ← readWord fuel .double rest
          return (.parameter parameter true :: word, after)
        | none => do
          let (word, after) ← readWord fuel .double rest
          return (letter c :: word, after)
  | fuel + 1, .plain, c :: rest =>
    if endsWord c then .ok ([], c :: rest)
    else if c == '\'' then do
      let (word, after) ← readWord fuel .single rest
      return (.text "" :: word, after)
    else if c == '"' then do
      let (word, after) ← readWord fuel .double rest
      return ((if rest.head? == some '"' then [.text ""] else []) ++ word, after)
    else
      match c, rest with
      | '\\', '\n' :: rest => readWord fuel .plain rest
      | '\\', d :: rest => do
        let (word, after) ← readWord fuel .plain rest
        return (letter d :: word, after)
      | _, _ =>
        match (if c == '$' then parameter? rest else none) with
        | some (parameter, rest) => do
          let (word, after) ← readWord fuel .plain rest
          return (.parameter parameter false :: word, after)
        | none => do
          let (word, after) ← readWord fuel .plain rest
          return (letter c :: word, after)

/-! ### Redirections -/

/-- The stream with the given number. -/
def Stream.ofNumber? : Char → Option Stream
  | '1' => some output
  | '2' => some errors
  | _ => none

/-- The redirection at the start of a text, and what follows it.  What a command would write into a
file is thrown away. -/
def redirect? (fuel : Nat) (cs : List Char) : Except ScriptFault (Option (Redirect × List Char)) :=
  let toFile (redirect : Redirect) (rest : List Char) := do
    let (word, after) ← readWord fuel .plain (rest.dropWhile fun c => c == ' ' || c == '\t')
    if word.isEmpty then .error (.unexpected "newline") else .ok (some (redirect, after))
  let written (stream : Stream) : List Char → Except ScriptFault (Option (Redirect × List Char))
    | '&' :: n :: rest =>
      match Stream.ofNumber? n with
      | some target => .ok (some (.join stream target, rest))
      | none => .ok (some (.discard stream, rest))
    | '>' :: rest | '|' :: rest => toFile (.discard stream) rest
    | rest => toFile (.discard stream) rest
  match cs with
  | '>' :: rest => written .output rest
  | '1' :: '>' :: rest => written .output rest
  | '2' :: '>' :: rest => written .errors rest
  | '<' :: rest => toFile .noInput rest
  | '0' :: '<' :: rest => toFile .noInput rest
  | _ => .ok none

/-! ### Scripts -/

/-- A command that has begun. -/
structure Pending where
  condition : Condition := .always
  words : List Word := []
  redirects : List Redirect := []

namespace Pending

/-- Whether nothing of the command has been read. -/
def isEmpty (command : Pending) : Bool :=
  command.words.isEmpty && command.redirects.isEmpty

/-- The command as a step, if there is one. -/
def finish (command : Pending) (line : Nat) : List Step :=
  if command.isEmpty then []
  else [⟨command.condition, line, command.words, command.redirects⟩]

end Pending

/-- The steps from here on; `command` is what has begun.  Each step uses a character, so two more than
the length of the text are fuel enough. -/
def readSteps : Nat → Nat → Pending → List Char → Except ScriptFault (List Step)
  | 0, _, _, _ => .error .endOfFile
  | _ + 1, line, command, [] =>
    if command.isEmpty && command.condition != .always then .error .endOfFile
    else .ok (command.finish line)
  | fuel + 1, line, command, c :: rest =>
    let divide (condition : Condition) (token : String) (next : Nat) (after : List Char) :=
      if command.isEmpty then .error (.unexpected token)
      else do
        let steps ← readSteps fuel next { condition } after
        return command.finish line ++ steps
    match c, rest with
    | '&', '&' :: after => divide .onSuccess "&&" line after
    | '|', '|' :: after => divide .onFailure "||" line after
    | ';', after => divide .always ";" line after
    | '\n', after =>
      if command.isEmpty then readSteps fuel (line + 1) command after
      else divide .always "newline" (line + 1) after
    | '\\', '\n' :: after => readSteps fuel (line + 1) command after
    | '#', after => readSteps fuel line command (after.dropWhile (· != '\n'))
    | _, _ =>
      if c == ' ' || c == '\t' then readSteps fuel line command rest
      else do
        match ← redirect? fuel (c :: rest) with
        | some (redirect, after) =>
          readSteps fuel line { command with redirects := command.redirects ++ [redirect] } after
        | none =>
          if endsWord c then .error (.unexpected c.toString)
          else
            let (word, after) ← readWord fuel .plain (c :: rest)
            readSteps fuel line { command with words := command.words ++ [word] } after

/-- The steps of a script. -/
def readScript (text : String) : Except ScriptFault (List Step) :=
  readSteps (text.toList.length + 2) 1 {} text.toList

end Inlay.Shell
