/-
**Concrete syntax trees.**

What the grammar builds from code: every keyword, mark and comment is a node, and every node knows the
bytes it covers and its role in its parent.

Main definitions:

* `Inlay.TreeKind`, `Inlay.Tree` — the tree;
* `Inlay.Tree.size` — the number of its nodes.
-/

set_option autoImplicit false

namespace Inlay

/-- What a concrete node is. -/
inductive TreeKind where
  /-- A keyword or a mark. -/
  | token (text : String)
  /-- A name of a value or of a property. -/
  | identifier (name : String)
  /-- A loop over a collection. -/
  | iteration
  /-- A statement that declares variables. -/
  | declaration
  /-- One name of such a statement. -/
  | declarator
  | block
  /-- Any other node, by its name in the grammar. -/
  | other (name : String)
  deriving DecidableEq, Repr

/-- A node of a concrete tree. -/
structure Tree where
  kind : TreeKind
  /-- The role of the node in its parent. -/
  field : Option String := none
  /-- Bytes before the node. -/
  start : Nat
  /-- Bytes before what follows the node. -/
  stop : Nat
  children : List Tree := []
  deriving Repr

namespace Tree

instance : Inhabited Tree := ⟨{ kind := .block, start := 0, stop := 0 }⟩

mutual

/-- The number of nodes. -/
def size : Tree → Nat
  | ⟨_, _, _, _, children⟩ => sizeAll children + 1

/-- The number of nodes of a list of trees. -/
def sizeAll : List Tree → Nat
  | [] => 0
  | tree :: rest => size tree + sizeAll rest

end

/-- Whether the node is a comment. -/
def isComment (tree : Tree) : Bool :=
  tree.kind = .other "comment"

end Tree

end Inlay
