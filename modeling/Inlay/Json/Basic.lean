/-
**JSON values.**

A value as it was written: objects keep their members in order and may repeat a key, and a number
written without fraction and exponent that fits a 64-bit integer, signed or not, is kept apart from
all other numbers.  A string with an escape that is half of a surrogate pair has no text.

Main definitions:

* `Inlay.Json` — the values;
* `Inlay.Json.settle?` — a value with one member per key, the last one written; it exists when every
  string has a text, every number is finite and the nesting is not too deep.
-/

set_option autoImplicit false

namespace Inlay

/-- A JSON value as written. -/
inductive Json where
  | null
  | bool (value : Bool)
  /-- A number without fraction and exponent that fits 64 bits. -/
  | int (value : Int)
  /-- Any other number: `mantissa * 10 ^ exponent`. -/
  | real (mantissa exponent : Int)
  | str (value : String)
  /-- A string with an escape that is half of a surrogate pair. -/
  | unpaired
  | arr (items : List Json)
  | obj (members : List (String × Json))
  deriving Repr, Inhabited

namespace Json

/-- The least and the greatest integer that a 64-bit word, signed or not, can hold. -/
def fitsWord (n : Int) : Bool :=
  -0x8000000000000000 ≤ n && n < 0x10000000000000000

/-- The greatest number that does not round to infinity lies below this bound. -/
def finiteBound : Nat :=
  Nat.pow 2 1024 - Nat.pow 2 970

/-- Whether `mantissa * 10 ^ exponent` rounds to a finite double. -/
def isFinite (mantissa exponent : Int) : Bool :=
  let digits := (Nat.toDigits 10 mantissa.natAbs).length
  if mantissa = 0 then true
  else if (digits : Int) + exponent > 310 then false
  else if (digits : Int) + exponent < 300 then true
  else if 0 ≤ exponent then mantissa.natAbs * Nat.pow 10 exponent.toNat < finiteBound
  else mantissa.natAbs < finiteBound * Nat.pow 10 (-exponent).toNat

/-- The member with the given key that was written last. -/
def lookupLast (key : String) (members : List (String × Json)) : Option Json :=
  (members.reverse.find? fun member => member.1 == key).map Prod.snd

/-- Keeps of each key the last member, at the place of the first. -/
def keepLast (members : List (String × Json)) : List (String × Json) :=
  let keys := (members.map Prod.fst).foldl
    (fun seen key => if seen.contains key then seen else seen ++ [key]) []
  keys.filterMap fun key => (lookupLast key members).map fun value => (key, value)

mutual

/-- The value with one member per key.  `depth` is the number of levels that may still be opened. -/
def settleWithin : Nat → Json → Option Json
  | depth, arr items =>
    match depth with
    | 0 => none
    | depth + 1 => (settleItems depth items).map arr
  | depth, obj members =>
    match depth with
    | 0 => none
    | depth + 1 => (settleMembers depth members).map fun settled => obj (keepLast settled)
  | _, real mantissa exponent =>
    if isFinite mantissa exponent then some (real mantissa exponent) else none
  | _, unpaired => none
  | _, other => some other

/-- `settleWithin` on the items of an array. -/
def settleItems : Nat → List Json → Option (List Json)
  | _, [] => some []
  | depth, item :: rest =>
    match settleWithin depth item, settleItems depth rest with
    | some item, some rest => some (item :: rest)
    | _, _ => none

/-- `settleWithin` on the values of an object. -/
def settleMembers : Nat → List (String × Json) → Option (List (String × Json))
  | _, [] => some []
  | depth, (key, value) :: rest =>
    match settleWithin depth value, settleMembers depth rest with
    | some value, some rest => some ((key, value) :: rest)
    | _, _ => none

end

/-- The value with one member per key, the last one written; at most 127 levels deep. -/
def settle? (json : Json) : Option Json :=
  settleWithin 127 json

end Json

end Inlay
