/-
**Analysis of loops.**

The compiler makes up loop counters that stand nowhere in the snippet, and its segments for the
header of a loop are unreliable.  One walk over the syntax tree finds both: the made-up names, whose
spans are protected, and the bindings, iterables and body declarations of loops, which are protected
and also become anchors, to be mapped by looking for their names in the host.

Main definitions:

* `Inlay.Anchor` — an identifier in generated code to be mapped by its name;
* `Inlay.Analysis` — the result, with how far it got;
* `Inlay.Node.findings` — what the walk over a tree finds;
* `Inlay.analyze` — the analysis of a code.
-/
import Inlay.Diagnostic
import Inlay.Options
import Inlay.Protection
import Inlay.Syntax.Node

set_option autoImplicit false

namespace Inlay

/-- An identifier in generated code that is mapped by its name. -/
structure Anchor where
  name : String
  line : Nat
  start : Nat
  stop : Nat
  deriving DecidableEq, Repr

/-- How far the analysis got. -/
inductive AnalysisStatus where
  /-- It was switched off. -/
  | disabled
  /-- The code cannot hold a loop. -/
  | noLoops
  /-- There was no tree. -/
  | parseFailed
  | completed
  deriving DecidableEq, Repr

/-- The status as a word. -/
def AnalysisStatus.key : AnalysisStatus → String
  | disabled => "disabled"
  | noLoops => "no-loops"
  | parseFailed => "parse-failed"
  | completed => "completed"

/-- The result of analysing the code of one snippet. -/
structure Analysis where
  protection : Protection := .empty
  anchors : List Anchor := []
  /-- Names made up by the compiler, sorted. -/
  syntheticNames : List String := []
  /-- Lines of anchors that were dropped because their name is made up, sorted. -/
  syntheticAnchorLines : List Nat := []
  status : AnalysisStatus
  deriving DecidableEq, Repr

/-- The elements of a list, each once, in increasing order. -/
def sortedDistinct {α : Type} [BEq α] (le : α → α → Bool) (xs : List α) : List α :=
  (xs.mergeSort le).eraseReps

namespace Analysis

/-- Whether a name was made up by the compiler. -/
def isSynthetic (analysis : Analysis) (name : String) : Bool :=
  analysis.syntheticNames.contains name

/-- The generated lines on which only the first segment is trusted. -/
def anchorLines (analysis : Analysis) : List Nat :=
  sortedDistinct (fun a b => decide (a ≤ b))
    (analysis.anchors.map (·.line) ++ analysis.syntheticAnchorLines)

end Analysis

/-! ### The walk -/

/-- What a walk over a tree has found so far. -/
structure Findings where
  ranges : List ProtectedRange := []
  anchors : List Anchor := []
  synthetic : List String := []

namespace Findings

/-- Protects the columns of a node that lies on one row. -/
def protect (found : Findings) (node : Node) : Findings :=
  if node.range.singleRow then
    { found with ranges := found.ranges ++ [{ line := node.range.start.row,
                                              start := node.range.start.column,
                                              stop := node.range.stop.column }] }
  else found

/-- Protects and anchors a node that is an identifier on one row. -/
def anchor (found : Findings) (node : Node) : Findings :=
  match node.name? with
  | none => found
  | some name =>
    if node.range.singleRow then
      let protectedNode := found.protect node
      { protectedNode with anchors := found.anchors ++ [{ name, line := node.range.start.row,
                                                          start := node.range.start.column,
                                                          stop := node.range.stop.column }] }
    else found

/-- Notes an identifier whose name is made up. -/
def addSynthetic (found : Findings) (name : String) (node : Node) : Findings :=
  { found.protect node with synthetic := name :: found.synthetic }

end Findings

namespace Node

/-- The names declared by the statements of a block. -/
def declaredNames (body : Node) : List Node :=
  (body.children.filter (·.kind = .declaration)).flatMap fun statement =>
    (statement.children.filter (·.kind = .declarator)).filterMap (·.child? "name")

/-- The nodes of a loop that are anchored if they are identifiers: its binding if the loop declares
it, its iterable, and the names that its body declares. -/
def loopNodes (node : Node) (declaration : Option String) : List Node :=
  (if declaration.isSome then (node.child? "left").toList else [])
    ++ (node.child? "right").toList
    ++ match node.child? "body" with
       | some body => if body.kind = .block then body.declaredNames else []
       | none => []

/-- What a node itself adds. -/
def visit (isSynthetic : String → Bool) (found : Findings) (node : Node) : Findings :=
  match node.kind with
  | .identifier name => if isSynthetic name then found.addSynthetic name node else found
  | .iteration _ declaration => (node.loopNodes declaration).foldl Findings.anchor found
  | _ => found

mutual

/-- What a tree adds, its root first. -/
def findings (isSynthetic : String → Bool) (found : Findings) : Node → Findings
  | ⟨kind, field, range, children⟩ =>
    findingsAll isSynthetic (visit isSynthetic found ⟨kind, field, range, children⟩) children

/-- What a list of trees adds, one after the other. -/
def findingsAll (isSynthetic : String → Bool) (found : Findings) : List Node → Findings
  | [] => found
  | child :: rest => findingsAll isSynthetic (findings isSynthetic found child) rest

end

end Node

/-- The analysis that the findings of a walk amount to.  Made-up names stay protected, but are never
anchors. -/
def Findings.analysis (found : Findings) : Analysis where
  protection := Protection.ofRanges found.ranges
  anchors := found.anchors.filter fun anchor => !found.synthetic.contains anchor.name
  syntheticNames := sortedDistinct (fun a b => decide (a ≤ b)) found.synthetic
  syntheticAnchorLines := sortedDistinct (fun a b => decide (a ≤ b))
    ((found.anchors.filter fun anchor => found.synthetic.contains anchor.name).map (·.line))
  status := .completed

/-- Analyses a code.  Without a tree nothing is protected, and that is reported. -/
def analyze (rules : Rules) (reader : SyntaxReader) (code : String) : Analysis × List Diagnostic :=
  if !rules.protectLoops then ({ status := .disabled }, [])
  else if !rules.mayLoop code then ({ status := .noLoops }, [])
  else
    match reader code with
    | .error failure =>
      ({ status := .parseFailed }, [Diagnostic.of .protectionDisabled failure.message])
    | .ok root => ((Node.findings rules.isSynthetic {} root).analysis, [])

end Inlay
