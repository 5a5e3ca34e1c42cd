/-
**Goals of the grammar.**

The grammar is recursive: expressions hold functions, functions hold statements, statements hold
expressions.  Each construct is written with the reader of the others as an argument, and the knot is
tied once, with the length of the code as a bound on the depth.

Main definitions:

* `Inlay.Syntax.Goal` — the constructs that refer to each other;
* `Inlay.Syntax.Grammar` — a reader for each of them;
* `Inlay.Syntax.widen`, `Inlay.Syntax.chain` — constructs that start with a construct;
* `Inlay.Syntax.afterClose` — the code after the bracket that closes the first one.
-/
import Inlay.Syntax.Semicolon

set_option autoImplicit false

namespace Inlay.Syntax

/-- The constructs that refer to each other. -/
inductive Goal where
  | statement
  /-- Statements in braces. -/
  | block
  /-- One expression; `allowIn` tells whether it may hold the operator `in`. -/
  | expression (allowIn : Bool)
  /-- Expressions with commas between them. -/
  | sequence
  /-- An expression whose operators bind at least as tightly as `level`. -/
  | operation (level : Nat) (allowIn : Bool)
  /-- An expression that a sign may stand before. -/
  | unary
  /-- What may be assigned to. -/
  | reference
  /-- Names to be bound: one name, or a pattern of names. -/
  | binding
  | type

/-- A reader for each goal. -/
abbrev Grammar := Goal → Row

/-! ### Constructs that start with a construct -/

/-- Nodes with a role in their parent. -/
def withField (name : String) (trees : List Tree) : List Tree :=
  trees.map fun tree => if tree.isComment then tree else { tree with field := some name }

/-- A node that starts with nodes read before. -/
def widen (kind : String) (front : List Tree) (more : Row) : Row :=
  named kind do
    let back ← more
    return front ++ back

/-- Widens a construct again and again, up to `count` times. -/
def chainUpTo (suffix : List Tree → Row) : Nat → List Tree → Row
  | 0, trees => pure trees
  | count + 1, trees =>
    (do
      let wider ← suffix trees
      chainUpTo suffix count wider) <|> pure trees

/-- A construct, widened as long as a suffix follows. -/
def chain (first : Row) (suffix : List Tree → Row) : Row := do
  let trees ← first
  let code ← Reader.rest
  chainUpTo suffix (code.length + 1) trees

/-- A construct, widened once if the suffix follows. -/
def widenOnce (first : Row) (suffix : List Tree → Row) : Row := do
  let trees ← first
  suffix trees <|> pure trees

/-- Constructs with commas between them; any of them may be missing. -/
def withHoles (item : Row) : Row :=
  row [optional (next item), many (row [next (mark ","), optional (next item)])]

/-- Constructs with commas between them and perhaps after the last. -/
def commaList (item : Row) : Row :=
  optional (row [next item, many (row [next (mark ","), next item]), optional (next (mark ","))])

/-! ### Looking ahead -/

/-- What part of the code a look ahead is in. -/
inductive ScanMode where
  | code
  | quote (mark : Char)
  | lineComment
  | blockComment

/-- The code after the bracket that closes the first one; `depth` brackets are open. -/
def afterClose : ScanMode → Nat → List Char → Option (List Char)
  | _, _, [] => none
  | .code, depth, '/' :: '/' :: rest => afterClose .lineComment depth rest
  | .code, depth, '/' :: '*' :: rest => afterClose .blockComment depth rest
  | .code, depth, '\\' :: _ :: rest => afterClose .code depth rest
  | .code, depth, c :: rest =>
    if c == '(' || c == '[' || c == '{' then afterClose .code (depth + 1) rest
    else if c == ')' || c == ']' || c == '}' then
      if depth ≤ 1 then some rest else afterClose .code (depth - 1) rest
    else if c == '"' || c == '\'' || c == '\x60' then afterClose (.quote c) depth rest
    else afterClose .code depth rest
  | .quote mark, depth, '\\' :: _ :: rest => afterClose (.quote mark) depth rest
  | .quote mark, depth, c :: rest =>
    if c == mark then afterClose .code depth rest else afterClose (.quote mark) depth rest
  | .lineComment, depth, c :: rest =>
    if c == '\n' then afterClose .code depth rest else afterClose .lineComment depth rest
  | .blockComment, depth, '*' :: '/' :: rest => afterClose .code depth rest
  | .blockComment, depth, _ :: rest => afterClose .blockComment depth rest

/-- The mark that follows white space and comments. -/
def symbolAfterGap (code : List Char) : Option String :=
  (afterComments (code.length + 1) code).bind symbolAt

end Inlay.Syntax
