/-
**Patterns and where they match.**

A pattern is a regular expression with assertions.  Its meaning is what it does to a set of places of
a text: it sends the places where a match may start to the places where such a match may end.  A set
of places is one truth value per place, so that matching a text takes one pass per operator and never
searches.

Main definitions:

* `Inlay.Pattern` — the expressions;
* `Inlay.Pattern.reach` — the places where a match that starts in a set of places may end;
* `Inlay.Pattern.occursIn` — whether the pattern matches somewhere in a text.
-/
import Inlay.Pattern.CharSet

set_option autoImplicit false

namespace Inlay

/-- A condition on a place of a text. -/
inductive Assertion where
  /-- The start of the text. -/
  | textStart
  /-- The end of the text. -/
  | textEnd
  /-- The start of a line; `carriageReturn` makes a carriage return end lines too. -/
  | lineStart (carriageReturn : Bool)
  /-- The end of a line. -/
  | lineEnd (carriageReturn : Bool)
  /-- One neighbour is a word character and the other is not. -/
  | wordBoundary (wordSet : CharSet)
  /-- Both neighbours are word characters, or neither is. -/
  | notWordBoundary (wordSet : CharSet)
  /-- A word starts here. -/
  | wordStart (wordSet : CharSet)
  /-- A word ends here. -/
  | wordEnd (wordSet : CharSet)
  /-- No word character stands before. -/
  | wordStartHalf (wordSet : CharSet)
  /-- No word character stands after. -/
  | wordEndHalf (wordSet : CharSet)
  deriving Repr

namespace Assertion

/-- Whether the condition holds between two neighbours. -/
def holds (assertion : Assertion) (before after : Option Char) : Bool :=
  match assertion with
  | textStart => before.isNone
  | textEnd => after.isNone
  | lineStart false => before.isNone || before == some '\n'
  | lineStart true =>
    before.isNone || before == some '\n' || (before == some '\r' && after != some '\n')
  | lineEnd false => after.isNone || after == some '\n'
  | lineEnd true =>
    after.isNone || after == some '\r' || (after == some '\n' && before != some '\r')
  | wordBoundary set => isIn set before != isIn set after
  | notWordBoundary set => isIn set before == isIn set after
  | wordStart set => !isIn set before && isIn set after
  | wordEnd set => isIn set before && !isIn set after
  | wordStartHalf set => !isIn set before
  | wordEndHalf set => !isIn set after
where
  /-- Whether there is a character and it belongs to the set. -/
  isIn (set : CharSet) (c : Option Char) : Bool :=
    c.any fun c => set.contains c.toNat

/-- The truth of the condition at each place of a text, `before` standing in front of it. -/
def places (assertion : Assertion) (before : Option Char) : List Char → List Bool
  | [] => [assertion.holds before none]
  | c :: cs => assertion.holds before (some c) :: assertion.places (some c) cs

end Assertion

/-- A regular expression with assertions. -/
inductive Pattern where
  | empty
  | oneOf (chars : CharSet)
  | place (condition : Assertion)
  | seq (first second : Pattern)
  | alt (left right : Pattern)
  /-- At least `least` times, and at most `most` times if that is given. -/
  | times (body : Pattern) (least : Nat) (most : Option Nat)
  deriving Repr

namespace Pattern

/-- Places where a match of one character that starts in `places` ends. -/
def stepSet (set : CharSet) (text : List Char) (places : List Bool) : List Bool :=
  false :: List.zipWith (fun here c => here && set.contains c.toNat) places text

/-- The union of two sets of places. -/
def union (left right : List Bool) : List Bool :=
  List.zipWith (· || ·) left right

/-- `step` done exactly `count` times, unless no place is left. -/
def exactly (step : List Bool → List Bool) : Nat → List Bool → List Bool
  | 0, places => places
  | count + 1, places => if places.any id then exactly step count (step places) else places

/-- `step` done any number of times up to `count`. -/
def upTo (step : List Bool → List Bool) : Nat → List Bool → List Bool
  | 0, places => places
  | count + 1, places =>
    let more := union places (step places)
    if more = places then places else upTo step count more

/-- Places where a match that starts in `places` may end. -/
def reach (text : List Char) : Pattern → List Bool → List Bool
  | empty, places => places
  | oneOf chars, places => stepSet chars text places
  | place condition, places =>
    List.zipWith (· && ·) places (condition.places none text)
  | seq first second, places => reach text second (reach text first places)
  | alt left right, places => union (reach text left places) (reach text right places)
  | times body least most, places =>
    let start := exactly (reach text body) least places
    match most with
    | some most => upTo (reach text body) (most - least) start
    | none => upTo (reach text body) (text.length + 1) start

/-- Whether the pattern matches somewhere in the text. -/
def occursIn (pattern : Pattern) (text : String) : Bool :=
  let cs := text.toList
  (pattern.reach cs (List.replicate (cs.length + 1) true)).any id

end Pattern

end Inlay
