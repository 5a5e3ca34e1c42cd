/-
**Syntax trees.**

The few kinds of node that matter for the analysis of loops, with their ranges.  Whatever builds such
a tree from code is a `SyntaxReader`; it may fail.

Main definitions:

* `Inlay.NodeKind`, `Inlay.Node` — the tree;
* `Inlay.Node.child?` — the first child with a field;
* `Inlay.SyntaxError`, `Inlay.SyntaxReader` — building trees.
-/
import Inlay.Text.Location

set_option autoImplicit false

namespace Inlay

/-- The two loops over a collection. -/
inductive IterationKind where
  /-- Over the elements. -/
  | forOf
  /-- Over the keys. -/
  | forIn
  deriving DecidableEq, Repr

/-- What a node is. -/
inductive NodeKind where
  | identifier (name : String)
  /-- A loop over a collection, with the keyword that declares its binding if there is one. -/
  | iteration (kind : IterationKind) (declaration : Option String)
  /-- A statement that declares variables. -/
  | declaration
  /-- One name of a declaration. -/
  | declarator
  | block
  /-- A keyword or a punctuation mark. -/
  | token (text : String)
  | other (name : String)
  deriving DecidableEq, Repr

/-- A node of a syntax tree. -/
structure Node where
  kind : NodeKind
  /-- The role of the node in its parent. -/
  field : Option String := none
  range : Range
  children : List Node := []
  deriving Repr

instance : Inhabited Node := ⟨{ kind := .block, range := default }⟩

namespace Node

/-- The first child with the given field. -/
def child? (node : Node) (field : String) : Option Node :=
  node.children.find? fun child => child.field == some field

/-- The name of an identifier. -/
def name? (node : Node) : Option String :=
  match node.kind with
  | .identifier name => some name
  | _ => none

end Node

/-- Why no tree could be built. -/
inductive SyntaxError where
  | grammar (reason : String)
  | parse (reason : String)
  deriving DecidableEq, Repr

/-- The reason in words. -/
def SyntaxError.message : SyntaxError → String
  | grammar reason => "Failed to load grammar: " ++ reason
  | parse reason => "Parse failed: " ++ reason

/-- Builds the tree of a code. -/
abbrev SyntaxReader := String → Except SyntaxError Node

end Inlay
