/-
**Mappings.**

A mapping ties a place in generated code to a place in the host document, perhaps with the name that
stands there.  Two passes produce mappings; the merged list has one per generated place.

Main definitions:

* `Inlay.Target`, `Inlay.Mapping` — the host side, and the whole mapping;
* `Inlay.Mapping.Precedes` — the order of generated places;
* `Inlay.Mapping.merge` — both passes together, sorted, one mapping per place: an override if there is
  one, else the last one inserted.
-/

set_option autoImplicit false

namespace Inlay

/-- Which pass made a mapping. -/
inductive Origin where
  /-- Walking the compiler's segments. -/
  | coalesced
  /-- Finding the identifier of a loop in the host text. -/
  | override
  deriving DecidableEq, Repr

/-- The host side of a mapping. -/
structure Target where
  /-- The host line. -/
  line : Nat
  /-- The UTF-16 column on it. -/
  column : Nat
  /-- The name that stands there. -/
  name : Option String
  deriving DecidableEq, Repr

/-- A mapping from generated code to the host. -/
structure Mapping where
  /-- The generated line. -/
  line : Nat
  /-- The UTF-16 column on it. -/
  column : Nat
  /-- The host side. -/
  target : Target
  /-- The pass that made it. -/
  origin : Origin
  deriving DecidableEq, Repr

namespace Mapping

/-- Whether two mappings have the same generated place. -/
def samePlace (a b : Mapping) : Bool :=
  a.line == b.line && a.column == b.column

/-- Whether the generated place of `a` comes before that of `b`. -/
def Precedes (a b : Mapping) : Prop :=
  a.line < b.line ∨ (a.line = b.line ∧ a.column < b.column)

instance (a b : Mapping) : Decidable (Precedes a b) :=
  inferInstanceAs (Decidable (_ ∨ _))

/-- Whether the generated place of `a` does not come after that of `b`. -/
def notAfter (a b : Mapping) : Bool :=
  !decide (Precedes b a)

/-- Of two mappings of one place, the one to keep: `later`, unless it would replace an override by
something else. -/
def keep (earlier later : Mapping) : Mapping :=
  if earlier.origin = .override ∧ later.origin ≠ .override then earlier else later

/-- Keeps one mapping of every run of equal places; `current` stands before the list. -/
def settle (current : Mapping) : List Mapping → List Mapping
  | [] => [current]
  | next :: rest =>
    if current.samePlace next then settle (current.keep next) rest
    else current :: settle next rest

/-- Keeps one mapping of every run of equal places. -/
def settleAll : List Mapping → List Mapping
  | [] => []
  | first :: rest => settle first rest

/-- Both passes together: sorted by place, one mapping per place. -/
def merge (coalesced overrides : List Mapping) : List Mapping :=
  settleAll ((coalesced ++ overrides).mergeSort notAfter)

/-- The names of a list of mappings, each once, in order of first appearance. -/
def names (mappings : List Mapping) : List String :=
  (mappings.filterMap (·.target.name)).foldl
    (fun seen name => if seen.contains name then seen else seen ++ [name]) []

end Mapping

end Inlay
