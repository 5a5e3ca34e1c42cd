/-
**Segments of a compiler's own map.**

The snippet compiler reports, for each generated line, a list of integer arrays: a column step alone,
or a column step with a source index, a snippet line and a snippet column, and then perhaps the index
of a name.  Every array is read once, into one of three kinds of segment.

Main definitions:

* `Inlay.Segment` — an advance, a mapped segment, or a malformed one with its fault;
* `Inlay.Segment.ofFields` — the segment meant by an integer array;
* `Inlay.Segment.toFields` — the array that a segment stands for, as far as it was understood.
-/
import Inlay.Json.Printer

set_option autoImplicit false

namespace Inlay

/-- What is wrong with a segment. -/
inductive SegmentFault where
  /-- The array is empty. -/
  | empty
  /-- The column step is negative. -/
  | negativeDelta (delta : Int)
  /-- A position or name field is negative. -/
  | negativeField (fields : List Int)
  /-- The name index is beyond the table of names. -/
  | nameOutOfRange (index count : Nat)
  /-- The array has a length that means nothing. -/
  | arity (length : Nat)
  deriving DecidableEq, Repr

namespace SegmentFault

/-- Integers in brackets. -/
def listText (fields : List Int) : String :=
  "[" ++ String.intercalate ", " (fields.map Json.intText) ++ "]"

/-- The fault in words. -/
def message : SegmentFault → String
  | empty => "empty segment"
  | negativeDelta delta => "negative column delta " ++ Json.intText delta
  | negativeField fields => "negative position field in " ++ listText fields
  | nameOutOfRange index count =>
    "name index " ++ Json.intText index ++ " out of range (" ++ Json.intText count ++ " names)"
  | arity length => "segment has " ++ Json.intText length ++ " fields"

end SegmentFault

/-- One segment of a generated line. -/
inductive Segment where
  /-- Moves the generated column and maps nothing. -/
  | advance (delta : Nat)
  /-- Maps the generated column, after its step, to a snippet position. -/
  | mapped (delta source line column : Nat) (name : Option Nat)
  /-- Means nothing; a step that could be read still moves the generated column. -/
  | malformed (delta : Option Nat) (fault : SegmentFault)
  deriving DecidableEq, Repr

namespace Segment

/-- The fields as natural numbers, when none is negative. -/
def naturals : List Int → Option (List Nat)
  | [] => some []
  | n :: rest => if 0 ≤ n then (naturals rest).map (n.toNat :: ·) else none

/-- The segment meant by an array whose step is `delta`; `nameCount` is the size of the table of
names. -/
def ofStep (delta : Nat) (fields : List Int) (nameCount : Nat) : Segment :=
  match fields.length with
  | 1 => advance delta
  | 4 | 5 =>
    match naturals fields.tail with
    | some [source, line, column] => mapped delta source line column none
    | some [source, line, column, name] =>
      if name < nameCount then mapped delta source line column (some name)
      else malformed (some delta) (.nameOutOfRange name nameCount)
    | _ => malformed (some delta) (.negativeField fields)
  | length => malformed (some delta) (.arity length)

/-- The segment meant by an integer array. -/
def ofFields (fields : List Int) (nameCount : Nat) : Segment :=
  match fields.head? with
  | none => malformed none .empty
  | some first =>
    if 0 ≤ first then ofStep first.toNat fields nameCount
    else malformed none (.negativeDelta first)

/-- The column step, when it could be read. -/
def delta? : Segment → Option Nat
  | advance delta => some delta
  | mapped delta _ _ _ _ => some delta
  | malformed delta _ => delta

/-- Whether the segment maps a position. -/
def isMapping : Segment → Bool
  | mapped .. => true
  | _ => false

/-- The array that the segment stands for. -/
def toFields : Segment → List Int
  | advance delta => [(delta : Int)]
  | mapped delta source line column none => [(delta : Int), source, line, column]
  | mapped delta source line column (some name) => [(delta : Int), source, line, column, name]
  | malformed (some delta) _ => [(delta : Int)]
  | malformed none _ => []

end Segment

end Inlay
