/-
**The walk with a cursor is a fold.**

`Inlay/Syntax/Cursor.lean` folds a tree from the leaves up with a loop over an explicit stack, so that deep
trees need no deep recursion.  This module follows that loop.  Entering a node leads, after as many rounds as
the nodes below it need, to the end of that node with the results of its children in order, and nothing that
was on the stack before has been touched.  So the loop comes to its end and gives what plain recursion gives,
with the same effects of the visitor in the same order.

Main definitions:

* `Inlay.Tree.foldM`, `Inlay.Tree.foldAllM` — **the fold by recursion**;
* `Inlay.Tree.fold` — the same with a visitor that has no effects.

Main results:

* `Inlay.Traversal.run_enter` — from entering a node to its end;
* `Inlay.Tree.foldUpM_eq`, `Inlay.Tree.foldUp_eq` — **the loop gives what the recursion gives**.
-/
import Inlay.Syntax.Cursor

set_option autoImplicit false

namespace Inlay

variable {α : Type} {m : Type → Type} [Monad m]

namespace Tree

section Recursion

variable (visit : Tree → List (Folded α) → m α)

mutual

/-- The result of a tree: its root is visited after its children, with their results. -/
def foldM : Tree → m α
  | ⟨kind, field, start, stop, children⟩ => do
    let results ← foldAllM children
    visit ⟨kind, field, start, stop, children⟩ results

/-- The results of a list of trees, in order, each with the kind of its tree and the tree's role. -/
def foldAllM : List Tree → m (List (Folded α))
  | [] => pure []
  | tree :: rest => do
    let value ← foldM tree
    let results ← foldAllM rest
    pure ({ kind := tree.kind, field := tree.field, value } :: results)

end

theorem foldM_eq (tree : Tree) :
    tree.foldM visit = foldAllM visit tree.children >>= visit tree := by
  cases tree
  rw [foldM]

end Recursion

/-- The result of a tree, with a visitor that has no effects. -/
def fold (visit : Tree → List (Folded α) → α) (tree : Tree) : α :=
  Id.run (tree.foldM fun node children => pure (visit node children))

/-- The root is visited with the results of its children, in order. -/
theorem fold_eq (visit : Tree → List (Folded α) → α) (tree : Tree) :
    tree.fold visit = visit tree (tree.children.map fun child =>
      { kind := child.kind, field := child.field, value := child.fold visit }) := by
  have hall : ∀ trees : List Tree,
      Id.run (foldAllM (fun node children => pure (visit node children)) trees) =
        trees.map fun child =>
          { kind := child.kind, field := child.field, value := child.fold visit } := by
    intro trees
    induction trees with
    | nil => rfl
    | cons tree rest ih =>
        rw [List.map_cons, ← ih, foldAllM]
        rfl
  rw [← hall, fold, foldM_eq]
  rfl

theorem size_eq (tree : Tree) : tree.size = sizeAll tree.children + 1 := by
  cases tree
  rw [size]

end Tree

namespace Traversal

variable [LawfulMonad m] {visit : Tree → List (Folded α) → m α}

/-! ### Rounds of the loop -/

section Rounds

variable (node child sibling : Tree) (field : Option String) (above : List Level)
  (before rest : List Tree) (results done : List (Folded α)) (stack : List (Phase α)) (rounds : Nat)

/-- A node with children is entered at its first child. -/
theorem run_first (h : node.children = child :: rest) :
    run visit (rounds + 1) { cursor := ⟨node, above⟩, stack := .enter node field :: stack } =
      run visit rounds
        { cursor := ⟨child, { parent := node, before := [], after := rest } :: above⟩
          stack := .enter child child.field :: .siblings node field [] :: stack } := by
  rw [run, step]
  simp only [Cursor.firstChild?, h, pure_bind]

/-- A node without children is at its end. -/
theorem run_leaf (h : node.children = []) :
    run visit (rounds + 1) { cursor := ⟨node, above⟩, stack := .enter node field :: stack } =
      run visit rounds
        { cursor := ⟨node, above⟩, stack := .exit node field :: .siblings node field [] :: stack } := by
  rw [run, step]
  simp only [Cursor.firstChild?, h, pure_bind]

/-- At the end of a child it is visited, and its result comes to those of its siblings. -/
theorem run_exit :
    run visit (rounds + 1)
        { cursor := ⟨child, above⟩
          stack := .exit child child.field :: .siblings child child.field results
            :: .siblings node field done :: stack } =
      visit child results >>= fun value => run visit rounds
        { cursor := ⟨child, above⟩
          stack := .siblings node field
            (done ++ [{ kind := child.kind, field := child.field, value }]) :: stack } := by
  rw [run, step]
  simp only [bind_assoc, pure_bind]

/-- After a child the next sibling is entered. -/
theorem run_sibling :
    run visit (rounds + 1)
        { cursor := ⟨child, { parent := node, before, after := sibling :: rest } :: above⟩
          stack := .siblings node field done :: stack } =
      run visit rounds
        { cursor := ⟨sibling, { parent := node, before := child :: before, after := rest } :: above⟩
          stack := .enter sibling sibling.field :: .siblings node field done :: stack } := by
  rw [run, step]
  simp only [Cursor.nextSibling?, pure_bind]

/-- After the last child the parent is at its end. -/
theorem run_parent :
    run visit (rounds + 1)
        { cursor := ⟨child, { parent := node, before, after := [] } :: above⟩
          stack := .siblings node field done :: stack } =
      run visit rounds
        { cursor := ⟨node, above⟩
          stack := .exit node field :: .siblings node field done :: stack } := by
  rw [run, step]
  simp only [Cursor.nextSibling?, Cursor.parent?, Option.getD_some, pure_bind]

/-- At the end of the root it is visited, and the loop ends. -/
theorem run_last :
    run visit (rounds + 1)
        { cursor := ⟨node, above⟩, stack := [.exit node field, .siblings node field results] } =
      (fun value => some { kind := node.kind, field, value }) <$> visit node results := by
  rw [run, step]
  simp only [bind_assoc, pure_bind, map_eq_pure_bind]

end Rounds

/-! ### Runs of the loop -/

mutual

/-- From entering a node to its end: all nodes below it are done, and its results are on the stack. -/
theorem run_enter (visit : Tree → List (Folded α) → m α) :
    ∀ (node : Tree) (field : Option String) (above : List Level) (stack : List (Phase α)) (rounds : Nat),
      run visit (rounds + (3 * Tree.sizeAll node.children + 1))
          { cursor := ⟨node, above⟩, stack := .enter node field :: stack } =
        Tree.foldAllM visit node.children >>= fun results => run visit rounds
          { cursor := ⟨node, above⟩
            stack := .exit node field :: .siblings node field results :: stack }
  | ⟨kind, role, start, stop, []⟩, field, above, stack, rounds => by
      rw [Tree.sizeAll, Tree.foldAllM, pure_bind]
      exact run_leaf _ field above stack rounds rfl
  | ⟨kind, role, start, stop, child :: rest⟩, field, above, stack, rounds => by
      rw [← Nat.add_assoc, run_first _ child field above rest stack _ rfl]
      exact run_siblings visit (child :: rest) rfl ⟨kind, role, start, stop, child :: rest⟩ field above
        [] [] stack rounds

/-- From entering a child to the end of its parent: the results of the child and of the siblings behind it
come to those that are there. -/
theorem run_siblings (visit : Tree → List (Folded α) → m α) :
    ∀ (trees : List Tree) {child : Tree} {rest : List Tree}, trees = child :: rest →
      ∀ (node : Tree) (field : Option String) (above : List Level) (before : List Tree)
        (done : List (Folded α)) (stack : List (Phase α)) (rounds : Nat),
      run visit (rounds + 3 * Tree.sizeAll (child :: rest))
          { cursor := ⟨child, { parent := node, before, after := rest } :: above⟩
            stack := .enter child child.field :: .siblings node field done :: stack } =
        Tree.foldAllM visit (child :: rest) >>= fun results => run visit rounds
          { cursor := ⟨node, above⟩
            stack := .exit node field :: .siblings node field (done ++ results) :: stack }
  | child :: rest, _, _, rfl, node, field, above, before, done, stack, rounds => by
      -- one round ends the child, and one more goes on to its sibling or back to the parent
      have hrounds : rounds + 3 * Tree.sizeAll (child :: rest) =
          rounds + 3 * Tree.sizeAll rest + 1 + 1 + (3 * Tree.sizeAll child.children + 1) := by
        rw [Tree.sizeAll, Tree.size_eq]
        omega
      rw [hrounds, run_enter visit child, Tree.foldAllM, Tree.foldM_eq]
      simp only [run_exit, bind_assoc, pure_bind]
      congr 1
      funext results
      congr 1
      funext value
      cases rest with
      | nil =>
          rw [run_parent, Tree.foldAllM, Tree.sizeAll, pure_bind]
          rfl
      | cons sibling rest =>
          rw [run_sibling, run_siblings visit (sibling :: rest) rfl node field above (child :: before)]
          simp only [List.append_assoc, List.singleton_append]

end

end Traversal

variable [LawfulMonad m]

/-- **The loop over the stack gives what the recursion gives**, and the root has no role. -/
theorem Tree.foldUpM_eq (visit : Tree → List (Folded α) → m α) (tree : Tree) :
    tree.foldUpM visit =
      (fun value => some { kind := tree.kind, field := none, value }) <$> tree.foldM visit := by
  have hrounds : 3 * tree.size = 2 + (3 * Tree.sizeAll tree.children + 1) := by
    rw [Tree.size_eq]
    omega
  rw [Tree.foldUpM, hrounds, Traversal.start, Cursor.ofTree, Traversal.run_enter visit tree, Tree.foldM_eq,
    map_bind]
  simp only [Traversal.run_last]

/-- The same without effects. -/
theorem Tree.foldUp_eq (visit : Tree → List (Folded α) → α) (tree : Tree) :
    tree.foldUp visit = some { kind := tree.kind, field := none, value := tree.fold visit } := by
  rw [Tree.foldUp, Tree.foldUpM_eq]
  rfl

end Inlay
