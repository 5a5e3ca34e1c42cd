/-
**The identifiers of loops.**

An analysis is put together from what one walk over a syntax tree has collected.  This module says what it
holds in terms of the tree alone.  To a loop belong its binding, if the loop declares it, its iterable, and
the names that the statements of its body declare; those of them that are identifiers are the identifiers of
the loop.  They become anchors, loop after loop, unless their names were made up; those with made-up names
leave only their lines behind.  Whether a name was made up is known when the whole tree has been walked, and
by then every identifier of a loop has been met, since it stands in the tree itself.

Main definitions:

* `Inlay.Enumerates` — a set as an increasing list;
* `Inlay.Node.FirstChild` — the first child with a field;
* `Inlay.Node.LoopPart` — **what belongs to a loop**;
* `Inlay.Node.loopIdentifiers` — the identifiers of a loop, in order;
* `Inlay.Node.identifiersNamed` — the identifiers of a tree whose names are of a kind.

Main results:

* `Inlay.Node.mem_loopIdentifiers_iff` — the identifiers of a loop are those that belong to it;
* `Inlay.Node.contains_synthetic_findings` — the names of loop identifiers are judged by the rules alone;
* `Inlay.Node.ranges_findings_perm` — what the walk protects;
* `Inlay.analyze_loop_identifiers` — **what a completed analysis holds**.
-/
import Inlay.Proofs.Canonical
import Inlay.Proofs.Findings
import Inlay.Syntax.Program
import Mathlib.Data.List.Perm.Basic
import Mathlib.Data.String.Basic

set_option autoImplicit false

namespace Inlay

/-! ### Sets as increasing lists -/

/-- Whether a list holds the elements of a set, each once, in increasing order. -/
structure Enumerates {α : Type} [LT α] (xs : List α) (P : α → Prop) : Prop where
  increasing : xs.Pairwise (· < ·)
  mem_iff : ∀ x, x ∈ xs ↔ P x

theorem enumerates_sortedDistinct {α : Type} [BEq α] [LawfulBEq α] [LinearOrder α]
    {le : α → α → Bool} (hle : ∀ a b, le a b = true ↔ a ≤ b) {xs : List α} {P : α → Prop}
    (hmem : ∀ x, x ∈ xs ↔ P x) : Enumerates (sortedDistinct le xs) P where
  increasing := pairwise_lt_eraseReps_mergeSort hle xs
  mem_iff x := mem_sortedDistinct.trans (hmem x)

namespace Node

/-! ### What belongs to a loop -/

/-- Whether `child` is the first child of a node that has a field. -/
def FirstChild (node : Node) (field : String) (child : Node) : Prop :=
  ∃ front back, node.children = front ++ child :: back ∧ child.field = some field ∧
    ∀ other ∈ front, other.field ≠ some field

/-- What belongs to a loop: its binding if it declares one, its iterable, and the names that its body, if
that is a block, declares. -/
inductive LoopPart (loop : Node) : Node → Prop
  | binding {kind : IterationKind} {keyword : String} {node : Node}
      (hloop : loop.kind = .iteration kind (some keyword)) (hleft : loop.FirstChild "left" node) :
      LoopPart loop node
  | iterable {kind : IterationKind} {declaration : Option String} {node : Node}
      (hloop : loop.kind = .iteration kind declaration) (hright : loop.FirstChild "right" node) :
      LoopPart loop node
  | declared {kind : IterationKind} {declaration : Option String} {body statement declarator node : Node}
      (hloop : loop.kind = .iteration kind declaration) (hbody : loop.FirstChild "body" body)
      (hblock : body.kind = .block) (hstatement : statement ∈ body.children)
      (hdeclaration : statement.kind = .declaration) (hdeclarator : declarator ∈ statement.children)
      (hkind : declarator.kind = .declarator) (hname : declarator.FirstChild "name" node) :
      LoopPart loop node

/-- The first child with a field, or nothing. -/
def first (node : Node) (field : String) : List Node :=
  (node.children.filter fun child => child.field == some field).take 1

/-- The identifiers of a loop: of its binding, then of its iterable, then of the declarations of its body.
Any other node has none. -/
def loopIdentifiers (loop : Node) : List Node :=
  match loop.kind with
  | .iteration _ declaration =>
    let binding := if declaration.isSome then loop.first "left" else []
    let statements := ((loop.first "body").filter (·.kind = .block)).flatMap children
    let declarators := ((statements.filter (·.kind = .declaration)).flatMap children).filter
      (·.kind = .declarator)
    (binding ++ loop.first "right" ++ declarators.flatMap (first · "name")).filter (·.name?.isSome)
  | _ => []

/-- The identifiers of a tree whose names are of a kind. -/
def identifiersNamed (root : Node) (isNamed : String → Bool) : List Node :=
  root.preorder.filter fun node => node.name?.any isNamed

theorem child?_eq_some_iff {node child : Node} {field : String} :
    node.child? field = some child ↔ node.FirstChild field child := by
  rw [child?, List.find?_eq_some_iff_append]
  simp only [FirstChild, beq_iff_eq, Bool.not_eq_true', beq_eq_false_iff_ne]
  constructor
  · rintro ⟨hfield, front, back, hparts, hfront⟩
    exact ⟨front, back, hparts, hfield, hfront⟩
  · rintro ⟨front, back, hparts, hfield, hfront⟩
    exact ⟨hfield, front, back, hparts, hfront⟩

theorem FirstChild.mem {node child : Node} {field : String} (h : node.FirstChild field child) :
    child ∈ node.children := by
  obtain ⟨front, back, hparts, _⟩ := h
  simp [hparts]

theorem first_eq (node : Node) (field : String) : node.first field = (node.child? field).toList := by
  rw [first, List.take_one, List.head?_filter, child?]

theorem name?_eq_some_iff {node : Node} {name : String} :
    node.name? = some name ↔ node.kind = .identifier name := by
  unfold name?
  cases node.kind <;> simp

theorem mem_declaredNames_iff {body node : Node} :
    node ∈ body.declaredNames ↔ ∃ statement ∈ body.children, statement.kind = .declaration ∧
      ∃ declarator ∈ statement.children, declarator.kind = .declarator ∧
        declarator.FirstChild "name" node := by
  simp only [declaredNames, List.mem_flatMap, List.mem_filterMap, List.mem_filter, decide_eq_true_iff,
    child?_eq_some_iff, and_assoc]

/-- The nodes that the walk anchors at a loop are those that belong to the loop. -/
theorem mem_loopNodes_iff {loop node : Node} {kind : IterationKind} {declaration : Option String}
    (hloop : loop.kind = .iteration kind declaration) :
    node ∈ loop.loopNodes declaration ↔ LoopPart loop node := by
  rw [loopNodes, List.mem_append, List.mem_append, Option.mem_toList, child?_eq_some_iff]
  constructor
  · rintro ((hleft | hright) | hbody)
    · split at hleft
      · next hdeclares =>
          obtain ⟨keyword, rfl⟩ := Option.isSome_iff_exists.1 hdeclares
          exact .binding hloop (child?_eq_some_iff.1 (Option.mem_toList.1 hleft))
      · cases hleft
    · exact .iterable hloop hright
    · split at hbody
      · next body hfirst =>
          split at hbody
          · next hblock =>
              obtain ⟨statement, hstatement, hdeclaration, declarator, hdeclarator, hkind, hname⟩ :=
                mem_declaredNames_iff.1 hbody
              exact .declared hloop (child?_eq_some_iff.1 hfirst) hblock hstatement hdeclaration
                hdeclarator hkind hname
          · cases hbody
      · cases hbody
  · intro h
    cases h with
    | binding hother hleft =>
        obtain ⟨rfl, rfl⟩ := NodeKind.iteration.inj (hloop.symm.trans hother)
        exact Or.inl (Or.inl (Option.mem_toList.2 (child?_eq_some_iff.2 hleft)))
    | iterable _ hright => exact Or.inl (Or.inr hright)
    | declared _ hbody hblock hstatement hdeclaration hdeclarator hkind hname =>
        refine Or.inr ?_
        rw [child?_eq_some_iff.2 hbody]
        dsimp only
        rw [if_pos hblock]
        exact mem_declaredNames_iff.2
          ⟨_, hstatement, hdeclaration, _, hdeclarator, hkind, hname⟩

/-- The identifiers of a loop are the identifiers among the nodes that the walk anchors. -/
theorem loopIdentifiers_eq {loop : Node} {kind : IterationKind} {declaration : Option String}
    (hloop : loop.kind = .iteration kind declaration) :
    loop.loopIdentifiers = (loop.loopNodes declaration).filter (·.name?.isSome) := by
  have hnames : ∀ nodes : List Node,
      nodes.flatMap (first · "name") = nodes.filterMap (·.child? "name") := by
    intro nodes
    simp only [first_eq, List.filterMap_eq_flatMap_toList]
  rw [loopIdentifiers, hloop, loopNodes]
  dsimp only
  rw [hnames, first_eq, first_eq, first_eq]
  congr 2
  cases loop.child? "body" with
  | none => rfl
  | some body =>
      dsimp only
      split
      · next hblock =>
        simp [hblock, declaredNames, List.filter_flatMap, List.filterMap_flatMap]
      · next hblock => simp [hblock]

/-- The identifiers of a loop are those that belong to it. -/
theorem mem_loopIdentifiers_iff {loop node : Node} :
    node ∈ loop.loopIdentifiers ↔ LoopPart loop node ∧ ∃ name, node.kind = .identifier name := by
  have hname : node.name?.isSome = true ↔ ∃ name, node.kind = .identifier name := by
    rw [Option.isSome_iff_exists]
    simp only [name?_eq_some_iff]
  by_cases hloop : ∃ kind declaration, loop.kind = .iteration kind declaration
  · obtain ⟨kind, declaration, hloop⟩ := hloop
    rw [loopIdentifiers_eq hloop, List.mem_filter, mem_loopNodes_iff hloop, hname]
  · -- only to loops does anything belong
    have hempty : loop.loopIdentifiers = [] := by
      unfold loopIdentifiers
      split
      · next heq => exact absurd ⟨_, _, heq⟩ hloop
      · rfl
    rw [hempty]
    constructor
    · intro h
      cases h
    · rintro ⟨hpart, _⟩
      cases hpart with
      | binding heq => exact absurd ⟨_, _, heq⟩ hloop
      | iterable heq => exact absurd ⟨_, _, heq⟩ hloop
      | declared heq => exact absurd ⟨_, _, heq⟩ hloop

/-! ### Where the identifiers of loops stand -/

theorem Within.trans {inner middle root : Node} (hinner : Within inner middle)
    (hmiddle : Within middle root) : Within inner root := by
  induction hmiddle with
  | root => exact hinner
  | child hchild _ ih => exact Within.child hchild ih

theorem within_of_mem_children {node child : Node} (h : child ∈ node.children) : Within child node :=
  Within.child h Within.root

/-- What belongs to a loop stands in it. -/
theorem LoopPart.within {loop node : Node} (h : LoopPart loop node) : Within node loop := by
  cases h with
  | binding _ hleft => exact within_of_mem_children hleft.mem
  | iterable _ hright => exact within_of_mem_children hright.mem
  | declared _ hbody _ hstatement _ hdeclarator _ hname =>
      have hinner := (within_of_mem_children hname.mem).trans (within_of_mem_children hdeclarator)
      exact (hinner.trans (within_of_mem_children hstatement)).trans
        (within_of_mem_children hbody.mem)

/-! ### What the walk finds -/

theorem anchor?_eq_some_iff {node : Node} {anchor : Anchor} :
    node.anchor? = some anchor ↔
      node.kind = .identifier anchor.name ∧ node.columns? = some anchor.columns := by
  simp only [anchor?, Option.bind_eq_some_iff, Option.map_eq_some_iff, name?_eq_some_iff]
  constructor
  · rintro ⟨name, hname, columns, hcolumns, rfl⟩
    exact ⟨hname, hcolumns⟩
  · rintro ⟨hname, hcolumns⟩
    exact ⟨_, hname, _, hcolumns, rfl⟩

theorem anchor?_of_name?_eq_none {node : Node} (h : node.name? = none) : node.anchor? = none := by
  rw [anchor?, h, Option.bind_none]

theorem columns_anchor? {node : Node} {name : String} (h : node.kind = .identifier name) :
    node.anchor?.map Anchor.columns = node.columns? := by
  rw [anchor?, name?_eq_some_iff.2 h, Option.bind_some, Option.map_map]
  cases node.columns? <;> rfl

/-- The anchors that a node adds are those of its identifiers as a loop. -/
theorem ownAnchors_eq (node : Node) : node.ownAnchors = node.loopIdentifiers.filterMap anchor? := by
  unfold ownAnchors
  split
  · next hloop =>
      rw [loopIdentifiers_eq hloop, List.filterMap_filter]
      congr 1
      funext other
      split
      · rfl
      · next hname => exact anchor?_of_name?_eq_none (by simpa using hname)
  · next hother =>
      unfold loopIdentifiers
      split
      · next heq => exact absurd heq (hother _ _)
      · rfl

variable (isSynthetic : String → Bool)

/-- The ranges that a node adds are those of its identifiers as a loop, and its own if its name was made
up. -/
theorem ownRanges_eq (node : Node) :
    node.ownRanges isSynthetic = node.loopIdentifiers.filterMap columns? ++
      if node.name?.any isSynthetic then node.columns?.toList else [] := by
  have hcolumns : node.ownAnchors.map Anchor.columns = node.loopIdentifiers.filterMap columns? := by
    rw [ownAnchors_eq, List.map_filterMap]
    refine List.filterMap_congr ?_
    intro other hother
    obtain ⟨_, name, hname⟩ := mem_loopIdentifiers_iff.1 hother
    exact columns_anchor? hname
  have hname : (node.syntheticName? isSynthetic).isSome = node.name?.any isSynthetic := by
    rw [syntheticName?, Option.isSome_filter]
  rw [ownRanges, hcolumns, hname]

/-- What the walk protects, up to the order: the identifiers of loops, and those whose names were made
up. -/
theorem ranges_findings_perm (root : Node) :
    (findings isSynthetic {} root).ranges.Perm
      ((root.preorder.flatMap loopIdentifiers ++ root.identifiersNamed isSynthetic).filterMap
        columns?) := by
  have hnamed : (root.preorder.flatMap fun node =>
      if node.name?.any isSynthetic then node.columns?.toList else []) =
        (root.identifiersNamed isSynthetic).filterMap columns? := by
    rw [identifiersNamed, List.filterMap_filter, List.filterMap_eq_flatMap_toList]
    congr 1
    funext node
    split <;> rfl
  rw [ranges_findings, List.filterMap_append, List.filterMap_flatMap, ← hnamed,
    funext (ownRanges_eq isSynthetic)]
  exact (List.flatMap_append_perm _ _ _).symm

/-- The anchors of a walk are those of the identifiers of loops, in the order of the loops. -/
theorem anchors_findings_eq (root : Node) :
    (findings isSynthetic {} root).anchors =
      (root.preorder.flatMap loopIdentifiers).filterMap anchor? := by
  rw [anchors_findings, funext ownAnchors_eq, List.filterMap_flatMap]

/-- The name of an identifier of a loop is among the made-up ones that the walk found exactly if the rules
say so, since the walk meets every identifier. -/
theorem contains_synthetic_findings {root : Node} {anchor : Anchor}
    (h : anchor ∈ (findings isSynthetic {} root).anchors) :
    (findings isSynthetic {} root).synthetic.contains anchor.name = isSynthetic anchor.name := by
  rw [anchors_findings_eq] at h
  obtain ⟨node, hnode, hanchor⟩ := List.mem_filterMap.1 h
  obtain ⟨loop, hloop, hmem⟩ := List.mem_flatMap.1 hnode
  have hwithin : Within node root :=
    (mem_loopIdentifiers_iff.1 hmem).1.within.trans (mem_preorder_iff.1 hloop)
  rw [Bool.eq_iff_iff, List.contains_iff_mem, mem_synthetic_findings]
  constructor
  · rintro ⟨hname, _⟩
    exact hname
  · intro hname
    exact ⟨hname, node, hwithin, (anchor?_eq_some_iff.1 hanchor).1⟩

theorem columns?_eq_some_iff {node : Node} {columns : ProtectedRange} :
    node.columns? = some columns ↔ node.range.singleRow = true ∧
      columns = ⟨node.range.start.row, node.range.start.column, node.range.stop.column⟩ := by
  unfold columns?
  split
  · next hrow => simp [hrow, eq_comm]
  · next hrow => simp [hrow]

/-- The rows of the anchors whose names were made up. -/
theorem mem_rows_of_synthetic_iff {root : Node} {line : Nat} :
    line ∈ ((findings isSynthetic {} root).anchors.filter fun anchor =>
        (findings isSynthetic {} root).synthetic.contains anchor.name).map (·.line) ↔
      ∃ node ∈ root.preorder.flatMap loopIdentifiers, ∃ name, node.kind = .identifier name ∧
        isSynthetic name = true ∧ node.range.singleRow = true ∧ node.range.start.row = line := by
  simp only [List.mem_map, List.mem_filter]
  constructor
  · rintro ⟨anchor, ⟨hanchor, hname⟩, rfl⟩
    rw [contains_synthetic_findings isSynthetic hanchor] at hname
    rw [anchors_findings_eq] at hanchor
    obtain ⟨node, hnode, hanchor⟩ := List.mem_filterMap.1 hanchor
    obtain ⟨hkind, hcolumns⟩ := anchor?_eq_some_iff.1 hanchor
    obtain ⟨hrow, hcolumns⟩ := columns?_eq_some_iff.1 hcolumns
    exact ⟨node, hnode, anchor.name, hkind, hname, hrow,
      (congrArg ProtectedRange.line hcolumns).symm⟩
  · rintro ⟨node, hnode, name, hkind, hname, hrow, rfl⟩
    have hanchor : node.anchor? = some ⟨name, node.range.start.row, node.range.start.column,
        node.range.stop.column⟩ :=
      anchor?_eq_some_iff.2 ⟨hkind, columns?_eq_some_iff.2 ⟨hrow, rfl⟩⟩
    have hmem := List.mem_filterMap.2 ⟨node, hnode, hanchor⟩
    rw [← anchors_findings_eq isSynthetic] at hmem
    refine ⟨_, ⟨hmem, ?_⟩, rfl⟩
    rw [contains_synthetic_findings isSynthetic hmem]
    exact hname

end Node

/-! ### What an analysis holds -/

/-- A completed analysis comes from a walk over the tree of the code. -/
theorem exists_findings_of_completed {rules : Rules} {reader : SyntaxReader} {code : String}
    (h : (analyze rules reader code).1.status = .completed) :
    ∃ root, reader code = .ok root ∧
      (analyze rules reader code).1 = (Node.findings rules.isSynthetic {} root).analysis := by
  rcases analyze_cases rules reader code with ⟨status, hstatus, hempty⟩ | hfound
  · rw [hempty] at h
    exact absurd h hstatus
  · exact hfound

/-- **What a completed analysis holds, in terms of the tree.**  The made-up names are those of identifiers
anywhere in the tree.  The anchors are the identifiers of loops that lie on one row and whose names were not
made up, loop after loop; the rows of those whose names were made up are kept apart.  Both, and all
identifiers with made-up names, are protected where they lie on one row. -/
theorem analyze_loop_identifiers {rules : Rules} {reader : SyntaxReader} {code : String} {root : Node}
    (hroot : reader code = .ok root)
    (hcompleted : (analyze rules reader code).1.status = .completed) :
    let analysis := (analyze rules reader code).1
    let identifiers := root.preorder.flatMap Node.loopIdentifiers
    (∀ node, node ∈ identifiers ↔ ∃ loop, Node.Within loop root ∧ Node.LoopPart loop node ∧
      ∃ name, node.kind = .identifier name) ∧
    Enumerates analysis.syntheticNames (fun name =>
      rules.isSynthetic name = true ∧ ∃ node, Node.Within node root ∧ node.kind = .identifier name) ∧
    analysis.anchors = (identifiers.filterMap Node.anchor?).filter
      (fun anchor => !rules.isSynthetic anchor.name) ∧
    Enumerates analysis.syntheticAnchorLines (fun line => ∃ node ∈ identifiers, ∃ name,
      node.kind = .identifier name ∧ rules.isSynthetic name = true ∧
      node.range.singleRow = true ∧ node.range.start.row = line) ∧
    analysis.protection =
      .ofRanges ((identifiers ++ root.identifiersNamed rules.isSynthetic).filterMap Node.columns?) := by
  intro analysis identifiers
  obtain ⟨other, hother, hfound⟩ := exists_findings_of_completed hcompleted
  obtain rfl : root = other := Except.ok.inj (hroot.symm.trans hother)
  have hanchors := Node.anchors_findings_eq rules.isSynthetic root
  rw [show analysis = _ from hfound]
  refine ⟨?_, ?_, ?_, ?_, ?_⟩
  · intro node
    simp only [identifiers, List.mem_flatMap, Node.mem_preorder_iff, Node.mem_loopIdentifiers_iff]
  · exact enumerates_sortedDistinct (by simp) fun name => Node.mem_synthetic_findings rules.isSynthetic
  · rw [← hanchors]
    refine List.filter_congr fun anchor hanchor => ?_
    rw [Node.contains_synthetic_findings rules.isSynthetic hanchor]
  · exact enumerates_sortedDistinct (by simp) fun line => Node.mem_rows_of_synthetic_iff rules.isSynthetic
  · exact Protection.ofRanges_perm (Node.ranges_findings_perm rules.isSynthetic root)

/-- A counter that was made up binds the outer loop; the inner loop declares nothing and iterates over what
the body of the outer one declares. -/
theorem analyze_loop_identifiers_nested :
    ∃ (code : String) (root : Node),
      code = "for (const i of xs) \x7b\n  const y = i0;\n  for (k in y) f(k)\n\x7d" ∧
      readSyntax code = .ok root ∧
      (analyze Rules.standard readSyntax code).1.status = .completed ∧
      ((root.preorder.flatMap Node.loopIdentifiers).filterMap Node.anchor?).filter
          (fun anchor => !Rules.standard.isSynthetic anchor.name) =
        [⟨"xs", 0, 16, 18⟩, ⟨"y", 1, 8, 9⟩, ⟨"y", 2, 12, 13⟩] := by
  have hanalysis : (analyze Rules.standard readSyntax
      "for (const i of xs) \x7b\n  const y = i0;\n  for (k in y) f(k)\n\x7d").1.status = .completed ∧
      (analyze Rules.standard readSyntax
        "for (const i of xs) \x7b\n  const y = i0;\n  for (k in y) f(k)\n\x7d").1.anchors =
          [⟨"xs", 0, 16, 18⟩, ⟨"y", 1, 8, 9⟩, ⟨"y", 2, 12, 13⟩] := by
    decide +kernel
  generalize "for (const i of xs) \x7b\n  const y = i0;\n  for (k in y) f(k)\n\x7d" = code at hanalysis
  obtain ⟨hcompleted, hanchors⟩ := hanalysis
  obtain ⟨root, hroot, _⟩ := exists_findings_of_completed hcompleted
  obtain ⟨_, _, hidentifiers, _⟩ := analyze_loop_identifiers hroot hcompleted
  exact ⟨code, root, rfl, hroot, hcompleted, hidentifiers.symm.trans hanchors⟩

end Inlay
