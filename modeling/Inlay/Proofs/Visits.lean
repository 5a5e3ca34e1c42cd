/-
**What a visitor sees of the walk.**

`Inlay/Proofs/Traversal.lean` shows that the loop over the stack has the effects of the recursion, whatever
they are.  This module takes the effects to be what a visitor with a memory of its own can have.  The loop is
then a machine: a configuration is a state of the loop and the memory, and a round leads from one to the next.
That machine comes to an end from the root of every tree, and no configuration on the way has a stack that
does not hold what it should.

Among the visitors with a memory is the one that writes down how it was called.  Its record shows the order
of the calls: those for the children of a node, one child after the other, and then one for the node, with
the results of its children.

Main definitions:

* `Inlay.Traversal.Next`, `Inlay.Traversal.Ends`, `Inlay.Traversal.NeverStuck` — the machine;
* `Inlay.Call`, `Inlay.recorded` — a visitor that writes down its calls;
* `Inlay.Visits`, `Inlay.VisitsAll` — **the calls that a tree takes**;
* `Inlay.Tree.postorder` — the nodes of a tree, each behind its children.

Main results:

* `Inlay.Traversal.Ends.of_run` — bounded rounds that give a result come from a loop that ends;
* `Inlay.Traversal.Ends.neverStuck` — a loop that ends never gets stuck;
* `Inlay.Tree.exists_visits_foldM` — the calls of the recursion;
* `Inlay.Tree.foldUpM_visits` — **the loop ends, never gets stuck, gives what the recursion gives, and calls
  the visitor once for each node, behind its children**.
-/
import Inlay.Proofs.Traversal
import Mathlib.Logic.Relation

set_option autoImplicit false

namespace Inlay

variable {α β σ : Type}

/-- What follows an action starts from the action's result and from the memory that it leaves. -/
theorem run_bind_of_run {action : StateM σ α} {next : α → StateM σ β} {memory kept : σ} {value : α}
    (h : action.run memory = (value, kept)) : (action >>= next).run memory = (next value).run kept := by
  rw [StateT.run_bind, h]
  rfl

/-! ### The loop as a machine -/

namespace Traversal

section Machine

variable (visit : Tree → List (Folded α) → StateM σ α)

/-- A round leads from a configuration, a state of the loop and the memory of the visitor, to another. -/
def Next (config next : Traversal α × σ) : Prop :=
  (step visit config.1).run config.2 = (.next next.1, next.2)

/-- From a configuration on the loop ends with a result and a memory; the rounds are not bounded. -/
inductive Ends : Traversal α × σ → Folded α × σ → Prop
  | done {config : Traversal α × σ} {ending : Folded α × σ}
      (h : (step visit config.1).run config.2 = (.done ending.1, ending.2)) : Ends config ending
  | next {config next : Traversal α × σ} {ending : Folded α × σ} (h : Next visit config next)
      (hends : Ends next ending) : Ends config ending

/-- No configuration that can be reached has a stack that does not hold what it should. -/
def NeverStuck (config : Traversal α × σ) : Prop :=
  ∀ other, Relation.ReflTransGen (Next visit) config other →
    ((step visit other.1).run other.2).1 ≠ .stuck

end Machine

namespace Ends

variable {visit : Tree → List (Folded α) → StateM σ α} {config next : Traversal α × σ}
  {ending : Folded α × σ}

/-- Bounded rounds that give a result come from a loop that ends. -/
theorem of_run {rounds : Nat} {state : Traversal α} {memory after : σ} {result : Folded α}
    (h : (run visit rounds state).run memory = (some result, after)) :
    Ends visit (state, memory) (result, after) := by
  induction rounds generalizing state memory with
  | zero => cases h
  | succ rounds ih =>
      rw [run] at h
      cases hstep : (step visit state).run memory with
      | mk outcome kept =>
          rw [run_bind_of_run hstep] at h
          cases outcome with
          | next state' =>
              have hnext : Next visit (state, memory) (state', kept) := hstep
              exact .next hnext (ih h)
          | done result' =>
              cases h
              exact .done hstep
          | stuck => cases h

/-- The loop goes one way: what it ends with after a round is what it ends with. -/
theorem of_next (h : Ends visit config ending) (hnext : Next visit config next) :
    Ends visit next ending := by
  cases h with
  | done hdone =>
      rw [Next, hdone] at hnext
      cases hnext
  | next hother hends =>
      rw [Next, hother] at hnext
      obtain ⟨hstate, hmemory⟩ := Prod.mk.inj hnext
      rwa [Prod.ext (Outcome.next.inj hstate) hmemory] at hends

theorem of_reaches (h : Ends visit config ending)
    (hreaches : Relation.ReflTransGen (Next visit) config next) : Ends visit next ending := by
  induction hreaches with
  | refl => exact h
  | tail _ hnext ih => exact ih.of_next hnext

/-- A loop that ends never gets stuck. -/
theorem neverStuck (h : Ends visit config ending) : NeverStuck visit config := by
  intro other hreaches hstuck
  cases h.of_reaches hreaches with
  | done hdone =>
      rw [hdone] at hstuck
      cases hstuck
  | next hnext _ =>
      rw [Next] at hnext
      rw [hnext] at hstuck
      cases hstuck

end Ends

end Traversal

/-! ### The calls of a visitor -/

/-- A call of a visitor: the node, the results of its children, and what the visitor gave. -/
structure Call (α : Type) where
  node : Tree
  children : List (Folded α)
  value : α

/-- The visitor that does the same and also writes down the call. -/
def recorded (visit : Tree → List (Folded α) → StateM σ α) (node : Tree) (children : List (Folded α)) :
    StateM (σ × List (Call α)) α := do
  let (memory, calls) ← get
  let (value, memory) := (visit node children).run memory
  set (memory, calls ++ [{ node, children, value }])
  pure value

theorem run_recorded {visit : Tree → List (Folded α) → StateM σ α} {node : Tree}
    {children : List (Folded α)} {memory after : σ} {value : α}
    (h : (visit node children).run memory = (value, after)) (calls : List (Call α)) :
    (recorded visit node children).run (memory, calls) =
      (value, after, calls ++ [{ node := node, children := children, value := value }]) := by
  have hget : (get : StateM (σ × List (Call α)) _).run (memory, calls) = ((memory, calls), (memory, calls)) :=
    rfl
  rw [recorded, run_bind_of_run hget]
  dsimp only
  rw [h]
  rfl

mutual

/-- The calls that a tree takes, with the last result: those for its children, and then one for the tree
with the results of its children. -/
inductive Visits : Tree → List (Call α) → α → Prop
  | node {tree : Tree} {calls : List (Call α)} {children : List (Folded α)} {value : α}
      (h : VisitsAll tree.children calls children) :
      Visits tree (calls ++ [{ node := tree, children, value }]) value

/-- The calls that a list of trees takes, with the results: one tree after the other, each result with the
kind of its tree and the tree's role. -/
inductive VisitsAll : List Tree → List (Call α) → List (Folded α) → Prop
  | nil : VisitsAll [] [] []
  | cons {tree : Tree} {rest : List Tree} {calls others : List (Call α)} {value : α}
      {results : List (Folded α)} (h : Visits tree calls value) (hrest : VisitsAll rest others results) :
      VisitsAll (tree :: rest) (calls ++ others)
        ({ kind := tree.kind, field := tree.field, value } :: results)

end

namespace Tree

mutual

/-- The nodes of a tree, each behind its children. -/
def postorder : Tree → List Tree
  | ⟨kind, field, start, stop, children⟩ =>
    postorderAll children ++ [⟨kind, field, start, stop, children⟩]

/-- The nodes of a list of trees, one tree after the other. -/
def postorderAll : List Tree → List Tree
  | [] => []
  | tree :: rest => postorder tree ++ postorderAll rest

end

theorem postorder_eq (tree : Tree) : tree.postorder = postorderAll tree.children ++ [tree] := by
  cases tree
  rw [postorder]

end Tree

mutual

/-- There is one call for each node, behind those for its children. -/
theorem Visits.map_node :
    ∀ {tree : Tree} {calls : List (Call α)} {value : α}, Visits tree calls value →
      calls.map Call.node = tree.postorder
  | _, _, _, .node hall => by
      rw [List.map_append, hall.map_node, List.map_singleton, Tree.postorder_eq]

theorem VisitsAll.map_node :
    ∀ {trees : List Tree} {calls : List (Call α)} {results : List (Folded α)},
      VisitsAll trees calls results → calls.map Call.node = Tree.postorderAll trees
  | _, _, _, .nil => by rw [List.map_nil, Tree.postorderAll]
  | _, _, _, .cons hfirst hrest => by
      rw [List.map_append, hfirst.map_node, hrest.map_node, Tree.postorderAll]

end

namespace Tree

variable (visit : Tree → List (Folded α) → StateM σ α)

mutual

/-- The recursion calls the visitor as the tree takes it. -/
theorem exists_visits_foldM :
    ∀ (tree : Tree) {memory after : σ} {value : α} (before : List (Call α)),
      (tree.foldM visit).run memory = (value, after) →
      ∃ calls, (tree.foldM (recorded visit)).run (memory, before) = (value, after, before ++ calls) ∧
        Visits tree calls value
  | ⟨kind, field, start, stop, children⟩, memory, after, value, before, h => by
      rw [foldM] at h
      cases hchildren : (foldAllM visit children).run memory with
      | mk results kept =>
          rw [run_bind_of_run hchildren] at h
          obtain ⟨calls, hcalls, hvisits⟩ := exists_visits_foldAllM children before hchildren
          refine ⟨calls ++ [⟨⟨kind, field, start, stop, children⟩, results, value⟩], ?_, .node hvisits⟩
          rw [foldM, run_bind_of_run hcalls, run_recorded h, List.append_assoc]

theorem exists_visits_foldAllM :
    ∀ (trees : List Tree) {memory after : σ} {results : List (Folded α)} (before : List (Call α)),
      (foldAllM visit trees).run memory = (results, after) →
      ∃ calls, (foldAllM (recorded visit) trees).run (memory, before) =
          (results, after, before ++ calls) ∧ VisitsAll trees calls results
  | [], memory, after, results, before, h => by
      rw [foldAllM] at h
      cases h
      refine ⟨[], ?_, .nil⟩
      rw [foldAllM, List.append_nil]
      rfl
  | tree :: rest, memory, after, results, before, h => by
      rw [foldAllM] at h
      cases htree : (tree.foldM visit).run memory with
      | mk value kept =>
          cases hrest : (foldAllM visit rest).run kept with
          | mk others kept' =>
              rw [run_bind_of_run htree, run_bind_of_run hrest] at h
              cases h
              obtain ⟨calls, hcalls, hvisits⟩ := exists_visits_foldM tree before htree
              obtain ⟨calls', hcalls', hvisits'⟩ := exists_visits_foldAllM rest (before ++ calls) hrest
              refine ⟨calls ++ calls', ?_, .cons hvisits hvisits'⟩
              rw [foldAllM, run_bind_of_run hcalls, run_bind_of_run hcalls', List.append_assoc]
              rfl

end

/-- **The loop over the stack is the recursion, for every tree and every visitor with a memory.**  From the
root it ends, it never gets stuck, and it ends with the result and the memory of the recursion, the root
without a role.  The visitor is called once for each node, behind its children, with their results in order,
each with the kind and the role of the child. -/
theorem foldUpM_visits (tree : Tree) (memory : σ) :
    ∃ value after calls,
      (tree.foldM visit).run memory = (value, after) ∧
      Traversal.Ends visit (Traversal.start tree, memory)
        ({ kind := tree.kind, field := none, value }, after) ∧
      Traversal.NeverStuck visit (Traversal.start tree, memory) ∧
      (tree.foldUpM visit).run memory =
        (some { kind := tree.kind, field := none, value }, after) ∧
      (tree.foldUpM (recorded visit)).run (memory, []) =
        (some { kind := tree.kind, field := none, value }, after, calls) ∧
      Visits tree calls value ∧ calls.map Call.node = tree.postorder := by
  cases hfold : (tree.foldM visit).run memory with
  | mk value after =>
      obtain ⟨calls, hcalls, hvisits⟩ := tree.exists_visits_foldM visit [] hfold
      have hloop : (tree.foldUpM visit).run memory =
          (some { kind := tree.kind, field := none, value }, after) := by
        rw [foldUpM_eq, StateT.run_map, hfold]
        rfl
      have hrecord : (tree.foldUpM (recorded visit)).run (memory, []) =
          (some { kind := tree.kind, field := none, value }, after, calls) := by
        rw [foldUpM_eq, StateT.run_map, hcalls]
        rfl
      have hends := Traversal.Ends.of_run hloop
      exact ⟨value, after, calls, rfl, hends, hends.neverStuck, hloop, hrecord, hvisits,
        hvisits.map_node⟩

end Tree

end Inlay
