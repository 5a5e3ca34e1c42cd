/-
**What the walk over a tree finds.**

`Inlay/Analysis.lean` walks a syntax tree and hands what it has found from node to node.  Each node adds
something of its own, whatever was found before, so the walk comes down to a list: the nodes of the tree,
each before its children.

Main definitions:

* `Inlay.Node.Within` — whether a node stands anywhere in a tree;
* `Inlay.Node.preorder` — the nodes of a tree, each before its children;
* `Inlay.Node.ownAnchors`, `Inlay.Node.ownRanges`, `Inlay.Node.syntheticName?` — **what a node adds**.

Main results:

* `Inlay.Node.mem_preorder_iff` — the nodes in that order are those that stand in the tree;
* `Inlay.Node.visit_eq` — a visit adds what the node adds;
* `Inlay.Node.anchors_findings`, `Inlay.Node.ranges_findings`, `Inlay.Node.mem_synthetic_findings` — **the
  walk finds what the nodes of the tree add**;
* `Inlay.analyze_cases` — an analysis is empty, or it comes from a walk.
-/
import Inlay.Analysis
import Inlay.Proofs.Protection

set_option autoImplicit false

namespace Inlay

deriving instance DecidableEq for Findings

/-- The columns of an anchor. -/
def Anchor.columns (anchor : Anchor) : ProtectedRange where
  line := anchor.line
  start := anchor.start
  stop := anchor.stop

namespace Node

/-! ### The nodes of a tree -/

/-- Whether a node stands in a tree: it is the root, or it stands in the tree of a child. -/
inductive Within (node : Node) : Node → Prop
  | root : Within node node
  | child {root child : Node} (hchild : child ∈ root.children) (h : Within node child) :
      Within node root

mutual

/-- The nodes of a tree, each before its children. -/
def preorder : Node → List Node
  | ⟨kind, field, range, children⟩ => ⟨kind, field, range, children⟩ :: preorderAll children

/-- The nodes of a list of trees, one tree after the other. -/
def preorderAll : List Node → List Node
  | [] => []
  | child :: rest => preorder child ++ preorderAll rest

end

theorem preorder_eq (root : Node) : root.preorder = root :: preorderAll root.children := by
  cases root
  rw [preorder]

theorem preorderAll_eq_flatMap (nodes : List Node) : preorderAll nodes = nodes.flatMap preorder := by
  induction nodes with
  | nil => rfl
  | cons child rest ih => rw [preorderAll, ih, List.flatMap_cons]

mutual

theorem within_of_mem_preorder {node : Node} : ∀ {root : Node}, node ∈ root.preorder → Within node root
  | ⟨kind, field, range, children⟩, h => by
      rw [preorder] at h
      rcases List.mem_cons.1 h with rfl | h
      · exact Within.root
      · obtain ⟨child, hchild, hwithin⟩ := exists_within_of_mem_preorderAll h
        exact Within.child hchild hwithin

theorem exists_within_of_mem_preorderAll {node : Node} :
    ∀ {nodes : List Node}, node ∈ preorderAll nodes → ∃ child ∈ nodes, Within node child
  | [], h => by cases h
  | child :: rest, h => by
      rw [preorderAll] at h
      rcases List.mem_append.1 h with h | h
      · exact ⟨child, List.mem_cons_self .., within_of_mem_preorder h⟩
      · obtain ⟨other, hother, hwithin⟩ := exists_within_of_mem_preorderAll h
        exact ⟨other, List.mem_cons_of_mem _ hother, hwithin⟩

end

/-- The nodes of a tree are those that stand in it. -/
theorem mem_preorder_iff {node root : Node} : node ∈ root.preorder ↔ Within node root := by
  constructor
  · exact within_of_mem_preorder
  · intro h
    induction h with
    | root =>
        rw [preorder_eq]
        exact List.mem_cons_self ..
    | child hchild _ ih =>
        rw [preorder_eq, preorderAll_eq_flatMap]
        exact List.mem_cons_of_mem _ (List.mem_flatMap.2 ⟨_, hchild, ih⟩)

mutual

/-- The walk over a tree visits its nodes one after the other. -/
theorem findings_eq_foldl (isSynthetic : String → Bool) :
    ∀ (found : Findings) (root : Node),
      findings isSynthetic found root = root.preorder.foldl (visit isSynthetic) found
  | found, ⟨kind, field, range, children⟩ => by
      rw [findings, preorder, List.foldl_cons, findingsAll_eq_foldl]

theorem findingsAll_eq_foldl (isSynthetic : String → Bool) :
    ∀ (found : Findings) (nodes : List Node),
      findingsAll isSynthetic found nodes = (preorderAll nodes).foldl (visit isSynthetic) found
  | found, [] => by rw [findingsAll, preorderAll, List.foldl_nil]
  | found, child :: rest => by
      rw [findingsAll, preorderAll, List.foldl_append, findings_eq_foldl, findingsAll_eq_foldl]

end

/-! ### What a node adds -/

/-- The columns of a node that lies on one row. -/
def columns? (node : Node) : Option ProtectedRange :=
  if node.range.singleRow then
    some { line := node.range.start.row, start := node.range.start.column,
           stop := node.range.stop.column }
  else none

/-- The anchor of an identifier that lies on one row. -/
def anchor? (node : Node) : Option Anchor :=
  node.name?.bind fun name =>
    node.columns?.map fun columns =>
      { name, line := columns.line, start := columns.start, stop := columns.stop }

/-- The anchors that a node adds: a loop adds those of its identifiers. -/
def ownAnchors (node : Node) : List Anchor :=
  match node.kind with
  | .iteration _ declaration => (node.loopNodes declaration).filterMap anchor?
  | _ => []

/-- The made-up name that a node adds: an identifier adds its own. -/
def syntheticName? (isSynthetic : String → Bool) (node : Node) : Option String :=
  node.name?.filter isSynthetic

/-- The ranges that a node adds: those of its anchors, and its own if its name is made up. -/
def ownRanges (isSynthetic : String → Bool) (node : Node) : List ProtectedRange :=
  node.ownAnchors.map Anchor.columns
    ++ if (node.syntheticName? isSynthetic).isSome then node.columns?.toList else []

end Node

namespace Findings

variable (found : Findings) (node : Node)

theorem protect_eq :
    found.protect node = { found with ranges := found.ranges ++ node.columns?.toList } := by
  unfold protect Node.columns?
  split <;> simp

theorem anchor_eq :
    found.anchor node =
      { found with
        ranges := found.ranges ++ (node.anchor?.map Anchor.columns).toList,
        anchors := found.anchors ++ node.anchor?.toList } := by
  unfold anchor Node.anchor?
  cases node.name? with
  | none => simp
  | some name =>
      cases hrow : node.range.singleRow with
      | false => simp [Node.columns?, hrow]
      | true => simp [protect_eq, Node.columns?, hrow, Anchor.columns]

theorem foldl_anchor (nodes : List Node) :
    nodes.foldl anchor found =
      { found with
        ranges := found.ranges ++ (nodes.filterMap Node.anchor?).map Anchor.columns,
        anchors := found.anchors ++ nodes.filterMap Node.anchor? } := by
  induction nodes generalizing found with
  | nil => simp
  | cons node rest ih =>
      rw [List.foldl_cons, ih, anchor_eq]
      cases h : node.anchor? <;> simp [h]

end Findings

namespace Node

variable (isSynthetic : String → Bool) (found : Findings)

/-- **A visit adds what the node adds.** -/
theorem visit_eq (node : Node) :
    visit isSynthetic found node =
      { ranges := found.ranges ++ node.ownRanges isSynthetic,
        anchors := found.anchors ++ node.ownAnchors,
        synthetic := (node.syntheticName? isSynthetic).toList ++ found.synthetic } := by
  unfold visit ownRanges ownAnchors syntheticName? name?
  cases hkind : node.kind with
  | identifier name =>
      cases hname : isSynthetic name with
      | false => simp [hname, Option.filter]
      | true => simp [hname, Option.filter, Findings.addSynthetic, Findings.protect_eq]
  | iteration kind declaration => simp [Findings.foldl_anchor]
  | declaration => simp
  | declarator => simp
  | block => simp
  | token text => simp
  | other name => simp

theorem foldl_visit_ranges (nodes : List Node) :
    (nodes.foldl (visit isSynthetic) found).ranges =
      found.ranges ++ nodes.flatMap (ownRanges isSynthetic) := by
  induction nodes generalizing found with
  | nil => simp
  | cons node rest ih => rw [List.foldl_cons, ih, visit_eq, List.flatMap_cons, List.append_assoc]

theorem foldl_visit_anchors (nodes : List Node) :
    (nodes.foldl (visit isSynthetic) found).anchors = found.anchors ++ nodes.flatMap ownAnchors := by
  induction nodes generalizing found with
  | nil => simp
  | cons node rest ih => rw [List.foldl_cons, ih, visit_eq, List.flatMap_cons, List.append_assoc]

theorem mem_foldl_visit_synthetic {name : String} (nodes : List Node) :
    name ∈ (nodes.foldl (visit isSynthetic) found).synthetic ↔
      name ∈ found.synthetic ∨ ∃ node ∈ nodes, node.syntheticName? isSynthetic = some name := by
  induction nodes generalizing found with
  | nil => simp
  | cons node rest ih =>
      rw [List.foldl_cons, ih, visit_eq]
      simp only [List.mem_append, Option.mem_toList, List.exists_mem_cons_iff]
      tauto

theorem syntheticName?_eq_some_iff {node : Node} {name : String} :
    node.syntheticName? isSynthetic = some name ↔
      node.kind = .identifier name ∧ isSynthetic name = true := by
  unfold syntheticName? name?
  cases node.kind <;> simp [Option.filter_eq_some_iff]

/-! ### What a walk finds -/

/-- The anchors of a walk, in the order of the nodes that add them. -/
theorem anchors_findings (root : Node) :
    (findings isSynthetic {} root).anchors = root.preorder.flatMap ownAnchors := by
  rw [findings_eq_foldl, foldl_visit_anchors, List.nil_append]

/-- The ranges of a walk, in the order of the nodes that add them. -/
theorem ranges_findings (root : Node) :
    (findings isSynthetic {} root).ranges = root.preorder.flatMap (ownRanges isSynthetic) := by
  rw [findings_eq_foldl, foldl_visit_ranges, List.nil_append]

/-- The made-up names of a walk are those of the identifiers in the tree. -/
theorem mem_synthetic_findings {root : Node} {name : String} :
    name ∈ (findings isSynthetic {} root).synthetic ↔
      isSynthetic name = true ∧ ∃ node, Within node root ∧ node.kind = .identifier name := by
  rw [findings_eq_foldl, mem_foldl_visit_synthetic]
  simp only [List.not_mem_nil, false_or, mem_preorder_iff, syntheticName?_eq_some_iff]
  constructor
  · rintro ⟨node, hwithin, hkind, hname⟩
    exact ⟨hname, node, hwithin, hkind⟩
  · rintro ⟨hname, node, hwithin, hkind⟩
    exact ⟨node, hwithin, hkind, hname⟩

/-- The columns of an anchor are among the ranges. -/
theorem columns_mem_ranges {root : Node} {anchor : Anchor}
    (h : anchor ∈ (findings isSynthetic {} root).anchors) :
    anchor.columns ∈ (findings isSynthetic {} root).ranges := by
  rw [anchors_findings] at h
  rw [ranges_findings]
  obtain ⟨node, hnode, hanchor⟩ := List.mem_flatMap.1 h
  exact List.mem_flatMap.2
    ⟨node, hnode, List.mem_append.2 (Or.inl (List.mem_map.2 ⟨anchor, hanchor, rfl⟩))⟩

/-- The columns of an identifier on one row are among the ranges if its name is made up. -/
theorem columns?_mem_ranges {root node : Node} {name : String} {columns : ProtectedRange}
    (hwithin : Within node root) (hkind : node.kind = .identifier name)
    (hname : isSynthetic name = true) (hcolumns : node.columns? = some columns) :
    columns ∈ (findings isSynthetic {} root).ranges := by
  rw [ranges_findings]
  refine List.mem_flatMap.2 ⟨node, mem_preorder_iff.2 hwithin, List.mem_append.2 (Or.inr ?_)⟩
  rw [(syntheticName?_eq_some_iff isSynthetic).2 ⟨hkind, hname⟩, hcolumns]
  simp

end Node

/-! ### What an analysis holds -/

theorem mem_sortedDistinct {α : Type} [BEq α] [LawfulBEq α] {le : α → α → Bool} {x : α}
    {xs : List α} : x ∈ sortedDistinct le xs ↔ x ∈ xs := by
  rw [sortedDistinct, mem_eraseReps, List.mem_mergeSort]

theorem Findings.isSynthetic_analysis_iff {found : Findings} {name : String} :
    found.analysis.isSynthetic name = true ↔ name ∈ found.synthetic := by
  rw [Analysis.isSynthetic, List.contains_iff_mem, Findings.analysis, mem_sortedDistinct]

theorem Findings.mem_anchors_analysis {found : Findings} {anchor : Anchor} :
    anchor ∈ found.analysis.anchors ↔
      anchor ∈ found.anchors ∧ found.analysis.isSynthetic anchor.name = false := by
  rw [← Bool.not_eq_true, isSynthetic_analysis_iff, Findings.analysis, List.mem_filter]
  simp

/-- An analysis is empty, or it comes from a walk over the tree of the code. -/
theorem analyze_cases (rules : Rules) (reader : SyntaxReader) (code : String) :
    (∃ status, status ≠ .completed ∧ (analyze rules reader code).1 = { status }) ∨
      ∃ root, reader code = .ok root ∧
        (analyze rules reader code).1 = (Node.findings rules.isSynthetic {} root).analysis := by
  unfold analyze
  split
  · exact Or.inl ⟨_, by decide, rfl⟩
  · split
    · exact Or.inl ⟨_, by decide, rfl⟩
    · cases reader code with
      | error failure => exact Or.inl ⟨_, by decide, rfl⟩
      | ok root => exact Or.inr ⟨root, rfl, rfl⟩

/-! ### The default rules -/

/-- The patterns of the default options can be read. -/
theorem Options.isSome_rules_default : (Options.rules {}).toOption.isSome = true := by
  decide +kernel

/-- The rules of the default options. -/
def Rules.standard : Rules :=
  (Options.rules {}).toOption.get Options.isSome_rules_default

theorem Options.rules_default : Options.rules {} = .ok Rules.standard := by
  have hget : ∀ (result : Except PatternOption Rules) (h : result.toOption.isSome = true),
      result = .ok (result.toOption.get h) := by
    intro result h
    cases result with
    | error option => cases h
    | ok rules => rfl
  exact hget _ _

end Inlay
