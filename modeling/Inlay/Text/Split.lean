/-
**Splitting text.**

Main definitions:

* `Inlay.Text.split` — the pieces between separators, empty ones included;
* `Inlay.Text.pieces` — the pieces with the newlines that end them;
* `Inlay.Text.lines` — the lines, without a last empty one and without a carriage return before the
  newline.

Main results:

* `Inlay.Text.split_ne_nil` — there is always at least one piece.
-/

set_option autoImplicit false

namespace Inlay.Text

/-- The pieces between the separators, empty ones included. -/
def split (separator : Char) : List Char → List (List Char)
  | [] => [[]]
  | c :: cs =>
    if c = separator then [] :: split separator cs
    else
      match split separator cs with
      | [] => [[c]]
      | piece :: rest => (c :: piece) :: rest

theorem split_ne_nil (separator : Char) (cs : List Char) : split separator cs ≠ [] := by
  cases cs with
  | nil => simp [split]
  | cons c cs =>
      unfold split
      split
      · simp
      · split <;> simp

/-- The pieces that end after each newline; what follows the last one is a piece if not empty. -/
def pieces : List Char → List (List Char)
  | [] => []
  | c :: cs =>
    if c = '\n' then [c] :: pieces cs
    else
      match pieces cs with
      | [] => [[c]]
      | piece :: rest => (c :: piece) :: rest

/-- A piece without its newline and the carriage return before it. -/
def stripLineEnd (piece : List Char) : List Char :=
  match piece.reverse with
  | '\n' :: '\r' :: rest => rest.reverse
  | '\n' :: rest => rest.reverse
  | _ => piece

/-- The lines of a text. -/
def lines (cs : List Char) : List (List Char) :=
  (pieces cs).map stripLineEnd

end Inlay.Text
