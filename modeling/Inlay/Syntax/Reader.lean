/-
**Readers.**

A reader takes a piece of code and gives the nodes it stands for, or fails without having read
anything.  White space is skipped; comments are nodes, and belong to the node in whose middle they
stand.

Main definitions:

* `Inlay.Syntax.Input` — the code that is left;
* `Inlay.Syntax.Reader` — readers, with choice, repetition and nodes;
* `Inlay.Syntax.gap` — white space and comments;
* `Inlay.Syntax.next` — a reader after white space and comments.
-/
import Inlay.Syntax.Tree
import Inlay.Text.Units
import Inlay.Unicode.Category

set_option autoImplicit false

namespace Inlay.Syntax

/-- The code that is left, and the number of bytes before it. -/
structure Input where
  rest : List Char
  offset : Nat

/-- The input after `n` characters. -/
def Input.advance (input : Input) (n : Nat) : Input where
  rest := input.rest.drop n
  offset := input.offset + Text.utf8Length (input.rest.take n)

/-- Reads from the start of the input, or fails. -/
def Reader (α : Type) : Type :=
  Input → Option (α × Input)

/-- The nodes that one construct after the other gives. -/
abbrev Row := Reader (List Tree)

namespace Reader

instance : Monad Reader where
  pure x := fun input => some (x, input)
  bind reader more := fun input =>
    match reader input with
    | some (x, after) => more x after
    | none => none

/-- Fails. -/
def fail {α : Type} : Reader α :=
  fun _ => none

/-- The first reader, or else the second. -/
def orElse {α : Type} (first : Reader α) (second : Unit → Reader α) : Reader α :=
  fun input =>
    match first input with
    | some result => some result
    | none => second () input

instance {α : Type} : OrElse (Reader α) where
  orElse := orElse

/-- The code that is left. -/
def rest : Reader (List Char) :=
  fun input => some (input.rest, input)

/-- Fails unless the code that is left passes a test. -/
def ensure (test : List Char → Bool) : Reader Unit :=
  fun input => if test input.rest then some ((), input) else none

/-- What a reader gives, without moving on. -/
def ahead {α : Type} (reader : Reader α) : Reader α :=
  fun input => (reader input).map fun (x, _) => (x, input)

end Reader

/-- Nothing. -/
def nothing : Row :=
  pure []

/-- One construct after the other. -/
def row : List Row → Row
  | [] => nothing
  | first :: rest => do
    let front ← first
    let back ← row rest
    return front ++ back

/-- A construct that may be missing. -/
def optional (reader : Row) : Row :=
  reader <|> nothing

/-- The first of several constructs that can be read. -/
def oneOf : List Row → Row
  | [] => Reader.fail
  | first :: rest => first <|> oneOf rest

/-- A construct as often as it can be read, up to `count` times. -/
def manyUpTo (reader : Row) : Nat → Row
  | 0 => nothing
  | count + 1 =>
    (do
      let first ← reader
      let more ← manyUpTo reader count
      return first ++ more) <|> nothing

/-- A construct as often as it can be read. -/
def many (reader : Row) : Row :=
  fun input => manyUpTo reader (input.rest.length + 1) input

/-- A leaf that covers the next `n` characters. -/
def leaf (kind : TreeKind) (n : Nat) : Row :=
  fun input =>
    let after := input.advance n
    some ([{ kind, start := input.offset, stop := after.offset }], after)

/-- The nodes of a construct under one node, which covers them all. -/
def node (kind : TreeKind) (reader : Row) : Row :=
  fun input =>
    match reader input with
    | none => none
    | some (children, after) =>
      let start := (children.head?.map (·.start)).getD input.offset
      let stop := (children.getLast?.map (·.stop)).getD input.offset
      some ([{ kind, start, stop, children }], after)

/-- A node by its name in the grammar. -/
def named (name : String) (reader : Row) : Row :=
  node (.other name) reader

/-- The nodes of a construct with a role in their parent; comments have none. -/
def field (name : String) (reader : Row) : Row := do
  let trees ← reader
  return trees.map fun tree => if tree.isComment then tree else { tree with field := some name }

/-! ### White space and comments -/

/-- White space. -/
def isSpace (c : Char) : Bool :=
  [' ', '\t', '\n', '\r', '\x0b', '\x0c', '\u200b', '\u2028', '\u2029', '\u2060',
    '\ufeff'].contains c
    || Unicode.Category.holds .spaceSeparator c.toNat

/-- Whether a character ends a comment that runs to the end of its line. -/
def isLineEnd (c : Char) : Bool :=
  c == '\n' || c == '\r' || c == '\u2028' || c == '\u2029'

/-- The number of characters up to the end of a comment between stars. -/
def closingStar : List Char → Nat → Option Nat
  | [], _ => none
  | '*' :: '/' :: _, n => some (n + 2)
  | _ :: rest, n => closingStar rest (n + 1)

/-- The length of the comment at the start of a code. -/
def commentLength : List Char → Option Nat
  | '/' :: '/' :: rest => some ((rest.takeWhile fun c => !isLineEnd c).length + 2)
  | '/' :: '*' :: rest => closingStar rest 2
  | _ => none

/-- The input after white space. -/
def skipSpace (input : Input) : Input :=
  input.advance (input.rest.takeWhile isSpace).length

/-- A comment. -/
def comment : Row :=
  fun input =>
    match commentLength input.rest with
    | some n => leaf (.other "comment") n input
    | none => none

/-- White space and comments, with at most `count` comments. -/
def gapUpTo : Nat → Row
  | 0 => nothing
  | count + 1 => fun input =>
    let here := skipSpace input
    match comment here with
    | none => some ([], here)
    | some (found, after) =>
      match gapUpTo count after with
      | some (more, last) => some (found ++ more, last)
      | none => none

/-- White space and comments. -/
def gap : Row :=
  fun input => gapUpTo (input.rest.length + 1) input

/-- A construct after white space and comments. -/
def next (reader : Row) : Row := do
  let comments ← gap
  let trees ← reader
  return comments ++ trees

/-- Constructs with separators between them, at least one. -/
def separated (separator reader : Row) : Row :=
  row [reader, many (row [next separator, next reader])]

end Inlay.Syntax
