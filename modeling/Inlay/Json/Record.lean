/-
**Records in JSON.**

A record is written as an object with named members, or as an array of its fields in order.  In an
object unknown members are ignored and a known one must not be repeated; in an array nothing may
follow the last field.

Main definitions:

* `Inlay.Json.Presence` — whether a field may be left out;
* `Inlay.Json.fields` — the values of a record's fields;
* `Inlay.Json.asString`, `Inlay.Json.asInt`, `Inlay.Json.asNat`, `Inlay.Json.asList`,
  `Inlay.Json.asOptional` — typed values.
-/
import Inlay.Json.Basic

set_option autoImplicit false

namespace Inlay.Json

/-- Why a value is not what was asked for. -/
inductive ShapeError where
  /-- A value of another type, a repeated member or an element too many. -/
  | mismatch
  /-- A member that has to be there is not. -/
  | missingField (name : String)
  deriving DecidableEq, Repr

/-- Whether a field may be left out. -/
inductive Presence where
  /-- It must be written. -/
  | required
  /-- It may be missing from an object. -/
  | optional
  /-- It may be missing from an object and from the end of an array. -/
  | defaulted
  deriving DecidableEq, Repr

/-- The value of one field of an object. -/
def memberOf (members : List (String × Json)) (name : String) (presence : Presence) :
    Except ShapeError (Option Json) :=
  match members.filter fun member => member.1 == name with
  | [] => if presence = .required then .error (.missingField name) else .ok none
  | [(_, value)] => .ok (some value)
  | _ => .error .mismatch

/-- The fields of a record written as an array. -/
def elementsOf : List Json → List (String × Presence) → Except ShapeError (List (Option Json))
  | [], [] => .ok []
  | _ :: _, [] => .error .mismatch
  | [], (_, presence) :: specs =>
    if presence = .defaulted then (elementsOf [] specs).map (none :: ·) else .error .mismatch
  | value :: rest, _ :: specs => (elementsOf rest specs).map (some value :: ·)

/-- The values of the fields of a record, in the order of their specifications. -/
def fields (specs : List (String × Presence)) : Json → Except ShapeError (List (Option Json))
  | obj members => specs.mapM fun (name, presence) => memberOf members name presence
  | arr items => elementsOf items specs
  | _ => .error .mismatch

/-- A string. -/
def asString : Json → Except ShapeError String
  | str text => .ok text
  | _ => .error .mismatch

/-- A signed 64-bit integer. -/
def asInt : Json → Except ShapeError Int
  | int n => if n < 0x8000000000000000 then .ok n else .error .mismatch
  | _ => .error .mismatch

/-- A natural number below `bound`. -/
def asNatBelow (bound : Nat) : Json → Except ShapeError Nat
  | int n => if 0 ≤ n && n < bound then .ok n.toNat else .error .mismatch
  | _ => .error .mismatch

/-- An unsigned 64-bit integer. -/
def asNat (json : Json) : Except ShapeError Nat :=
  asNatBelow 0x10000000000000000 json

/-- An array whose items are all read the same way. -/
def asList {α : Type} (item : Json → Except ShapeError α) : Json → Except ShapeError (List α)
  | arr items => items.mapM item
  | _ => .error .mismatch

/-- A field that may be missing or null. -/
def asOptional {α : Type} (item : Json → Except ShapeError α) :
    Option Json → Except ShapeError (Option α)
  | none => .ok none
  | some null => .ok none
  | some other => (item other).map some

/-- A field with a default for when it is missing; null is no value. -/
def asDefaulted {α : Type} (item : Json → Except ShapeError α) (default : α) :
    Option Json → Except ShapeError α
  | none => .ok default
  | some other => item other

/-- A field that was required, and so is there. -/
def asRequired {α : Type} (item : Json → Except ShapeError α) :
    Option Json → Except ShapeError α
  | none => .error .mismatch
  | some other => item other

end Inlay.Json
