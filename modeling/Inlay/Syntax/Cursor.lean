/-
**Walking a tree with a cursor.**

A cursor stands at one node of a tree and moves to its first child, its next sibling or its parent.
The fold from the leaves up is a loop over an explicit stack that drives a cursor, so that deep trees
need no deep recursion.

Main definitions:

* `Inlay.Cursor` with `Inlay.Cursor.firstChild?`, `Inlay.Cursor.nextSibling?`,
  `Inlay.Cursor.parent?`;
* `Inlay.Folded` — the result of a node, with the node's kind and field;
* `Inlay.Traversal.step`, `Inlay.Traversal.run` — the loop, with a visitor that may have effects;
* `Inlay.Tree.foldUpM` — the fold of a whole tree;
* `Inlay.Tree.foldUp` — the same without effects.
-/
import Inlay.Syntax.Tree

set_option autoImplicit false

namespace Inlay

/-- A parent on the way to a node: what stands before and after the node among its children. -/
structure Level where
  parent : Tree
  /-- The siblings before, the nearest first. -/
  before : List Tree
  /-- The siblings after, the nearest first. -/
  after : List Tree

/-- A node of a tree, with the way to it from the root. -/
structure Cursor where
  focus : Tree
  /-- The parents, the nearest first. -/
  above : List Level

namespace Cursor

/-- The cursor at the root. -/
def ofTree (tree : Tree) : Cursor where
  focus := tree
  above := []

/-- The cursor at the first child. -/
def firstChild? (cursor : Cursor) : Option Cursor :=
  match cursor.focus.children with
  | [] => none
  | child :: rest =>
    some { focus := child
           above := { parent := cursor.focus, before := [], after := rest } :: cursor.above }

/-- The cursor at the next sibling. -/
def nextSibling? (cursor : Cursor) : Option Cursor :=
  match cursor.above with
  | [] => none
  | level :: rest =>
    match level.after with
    | [] => none
    | sibling :: after =>
      some { focus := sibling
             above := { level with before := cursor.focus :: level.before, after } :: rest }

/-- The cursor at the parent. -/
def parent? (cursor : Cursor) : Option Cursor :=
  match cursor.above with
  | [] => none
  | level :: rest => some { focus := level.parent, above := rest }

end Cursor

/-- The result of a node, with the node's kind and its role in its parent. -/
structure Folded (α : Type) where
  kind : TreeKind
  field : Option String
  value : α

/-- What is still to be done at a node. -/
inductive Phase (α : Type) where
  /-- Start with the node, at which the cursor stands. -/
  | enter (node : Tree) (field : Option String)
  /-- Go on after a child, at which the cursor stands; the results of the children so far. -/
  | siblings (node : Tree) (field : Option String) (children : List (Folded α))
  /-- All children are done. -/
  | exit (node : Tree) (field : Option String)

/-- A state of the loop. -/
structure Traversal (α : Type) where
  cursor : Cursor
  /-- What is to be done, first things first. -/
  stack : List (Phase α)

namespace Traversal

/-- What one round of the loop leads to. -/
inductive Outcome (α : Type) where
  | next (state : Traversal α)
  | done (result : Folded α)
  /-- The stack does not hold what it should. -/
  | stuck

/-- Before the first round: the cursor stands at the root, which has no role. -/
def start {α : Type} (tree : Tree) : Traversal α where
  cursor := Cursor.ofTree tree
  stack := [.enter tree none]

variable {α : Type} {m : Type → Type} [Monad m]

/-- One round: the top of the stack is taken off and done. -/
@[specialize]
def step (visit : Tree → List (Folded α) → m α) (state : Traversal α) : m (Outcome α) :=
  match state.stack with
  | [] => pure .stuck
  | .enter node field :: stack =>
    match state.cursor.firstChild? with
    | some cursor =>
      pure <| .next
        { cursor
          stack := .enter cursor.focus cursor.focus.field :: .siblings node field [] :: stack }
    | none =>
      pure <| .next
        { cursor := state.cursor, stack := .exit node field :: .siblings node field [] :: stack }
  | .siblings node field children :: stack =>
    match state.cursor.nextSibling? with
    | some cursor =>
      pure <| .next
        { cursor
          stack := .enter cursor.focus cursor.focus.field
            :: .siblings node field children :: stack }
    | none =>
      pure <| .next
        { cursor := state.cursor.parent?.getD state.cursor
          stack := .exit node field :: .siblings node field children :: stack }
  | .exit node field :: .siblings _ _ children :: stack => do
    let folded : Folded α := { kind := node.kind, field, value := ← visit node children }
    match stack with
    | [] => pure (.done folded)
    | .siblings parent parentField done :: rest =>
      pure <| .next
        { cursor := state.cursor
          stack := .siblings parent parentField (done ++ [folded]) :: rest }
    | _ => pure .stuck
  | .exit _ _ :: _ => pure .stuck

/-- At most `rounds` rounds of the loop. -/
@[specialize]
def run (visit : Tree → List (Folded α) → m α) : Nat → Traversal α → m (Option (Folded α))
  | 0, _ => pure none
  | rounds + 1, state => do
    match ← step visit state with
    | .next state => run visit rounds state
    | .done result => pure (some result)
    | .stuck => pure none

end Traversal

/-- The fold of a tree from the leaves up.  Three rounds for each node are enough. -/
@[specialize]
def Tree.foldUpM {α : Type} {m : Type → Type} [Monad m] (visit : Tree → List (Folded α) → m α)
    (tree : Tree) : m (Option (Folded α)) :=
  Traversal.run visit (3 * tree.size) (Traversal.start tree)

/-- The fold of a tree from the leaves up, with a visitor that has no effects. -/
def Tree.foldUp {α : Type} (visit : Tree → List (Folded α) → α) (tree : Tree) :
    Option (Folded α) :=
  Id.run (tree.foldUpM fun node children => pure (visit node children))

end Inlay
