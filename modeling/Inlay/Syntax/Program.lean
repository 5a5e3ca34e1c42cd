/-
**Reading code.**

The grammar with its knot tied, and the syntax tree of a code.

Main definitions:

* `Inlay.Syntax.grammar` — the readers of all goals, up to a depth;
* `Inlay.Syntax.program` — the concrete tree of a code;
* `Inlay.Tree.reduce` — the node of a concrete tree, given those of its children;
* `Inlay.readSyntax` — the syntax tree of a code.
-/
import Inlay.Syntax.Cursor
import Inlay.Syntax.Node
import Inlay.Syntax.Statement
import Inlay.Text.LineIndex

set_option autoImplicit false

namespace Inlay

namespace Syntax

/-- The reader of a goal in terms of the readers of all goals. -/
def unfold (self : Grammar) : Goal → Row
  | .statement => statement self
  | .block => block self
  | .expression allowIn => expression self allowIn
  | .sequence => sequence self
  | .operation level allowIn => operation self level allowIn
  | .unary => unary self
  | .reference => reference self
  | .binding => binding self
  | .type => type self

/-- The readers of all goals, to a depth. -/
def grammar : Nat → Grammar
  | 0, _ => Reader.fail
  | depth + 1, goal => fun input => unfold (grammar depth) goal input

/-- The first line of a script that names its interpreter. -/
def interpreterLine : Row := do
  let code ← Reader.rest
  if ['#', '!'].isPrefixOf code then
    leaf (.other "hash_bang_line") (code.takeWhile (· != '\n')).length
  else Reader.fail

/-- A program: statements, and what cannot be read.  A closing brace too many is set aside. -/
def programRow (self : Grammar) : Row :=
  let stray := named "ERROR" (mark "\x7d")
  row [optional interpreterLine, many (next (self .statement <|> strayToken <|> stray)), gap]

/-- A depth that no code of the given length exceeds. -/
def depthFor (length : Nat) : Nat :=
  10 * length + 20

/-- The concrete tree of a code: it starts at the first token and ends with the code. -/
def program (code : String) : Tree :=
  let cs := code.toList
  let length := Text.utf8Length cs
  let children :=
    match programRow (grammar (depthFor cs.length)) { rest := cs, offset := 0 } with
    | some (children, _) => children
    | none => []
  { kind := .other "program", start := (children.head?.map (·.start)).getD 0, stop := length,
    children }

end Syntax

namespace Tree

/-- The location of a byte offset of a code. -/
def place (index : LineIndex) (code : String) (offset : Nat) : Location :=
  (index.locate offset code).getD { offset, row := 0, column := 0 }

/-- The text of the first token that has a field, or else of the first that is one of some words. -/
def tokenText (children : List Node) (field : String) (words : List String) : Option String :=
  let tokens := children.filterMap fun child =>
    match child.kind with
    | .token text => some (text, child.field)
    | _ => none
  match tokens.find? fun token => token.2 == some field with
  | some token => some token.1
  | none => (tokens.find? fun token => words.contains token.1).map Prod.fst

/-- The kind of node that a concrete node becomes. -/
def reducedKind (kind : TreeKind) (children : List Node) : NodeKind :=
  match kind with
  | .token text => .token text
  | .identifier name => .identifier name
  | .iteration =>
    let loop : IterationKind :=
      if tokenText children "operator" ["in", "of"] = some "in" then .forIn else .forOf
    .iteration loop (tokenText children "kind" ["const", "let", "var"])
  | .declaration => .declaration
  | .declarator => .declarator
  | .block => .block
  | .other name => .other name

/-- The node of a concrete node, given those of its children; tokens are left out. -/
def reduce (index : LineIndex) (code : String) (tree : Tree) (children : List (Folded Node)) :
    Node :=
  let nodes := children.map fun child => { child.value with field := child.field }
  { kind := reducedKind tree.kind nodes
    range := { start := place index code tree.start, stop := place index code tree.stop }
    children := nodes.filter fun child =>
      match child.kind with
      | .token _ => false
      | _ => true }

end Tree

/-- The syntax tree of a code.  Code that cannot be understood is set aside and the rest is read. -/
def readSyntax : SyntaxReader := fun code =>
  match (Syntax.program code).foldUp (Tree.reduce (LineIndex.ofText code) code) with
  | some folded => .ok folded.value
  | none => .error (.parse "the traversal did not come to an end")

end Inlay
