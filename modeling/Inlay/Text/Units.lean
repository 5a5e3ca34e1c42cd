/-
**Counting and cutting text in bytes and in UTF-16 units.**

Offsets are UTF-8 bytes, columns are UTF-16 units.  Both are measures of a list of characters, and a
cut at a byte offset exists only between two characters.

Main definitions:

* `Inlay.Text.units16`, `Inlay.Text.utf16Length` — UTF-16 units of a character and of a text;
* `Inlay.Text.utf8Length` — bytes of a text;
* `Inlay.Text.takeBytes`, `Inlay.Text.dropBytes`, `Inlay.Text.sliceBytes` — cuts at byte offsets;
* `Inlay.Text.columnOfByte` — the column of a byte offset inside one line;
* `Inlay.Text.charAtUnit` — the character that covers a UTF-16 column.
-/

set_option autoImplicit false

namespace Inlay.Text

/-- UTF-16 units of a character: two beyond the basic plane, else one. -/
def units16 (c : Char) : Nat :=
  if c.toNat < 0x10000 then 1 else 2

/-- Length in UTF-8 bytes. -/
def utf8Length (cs : List Char) : Nat :=
  cs.foldr (fun c n => c.utf8Size + n) 0

/-- Length in UTF-16 units. -/
def utf16Length (cs : List Char) : Nat :=
  cs.foldr (fun c n => units16 c + n) 0

@[simp] theorem utf8Length_nil : utf8Length [] = 0 := rfl

@[simp] theorem utf8Length_cons (c : Char) (cs : List Char) :
    utf8Length (c :: cs) = c.utf8Size + utf8Length cs := rfl

@[simp] theorem utf8Length_append (cs ds : List Char) :
    utf8Length (cs ++ ds) = utf8Length cs + utf8Length ds := by
  induction cs with
  | nil => simp
  | cons c cs ih => simp [ih, Nat.add_assoc]

@[simp] theorem utf16Length_nil : utf16Length [] = 0 := rfl

@[simp] theorem utf16Length_cons (c : Char) (cs : List Char) :
    utf16Length (c :: cs) = units16 c + utf16Length cs := rfl

@[simp] theorem utf16Length_append (cs ds : List Char) :
    utf16Length (cs ++ ds) = utf16Length cs + utf16Length ds := by
  induction cs with
  | nil => simp
  | cons c cs ih => simp [ih, Nat.add_assoc]

theorem units16_pos (c : Char) : 0 < units16 c := by
  unfold units16
  split <;> decide

/-! ### Cuts at byte offsets -/

/-- The first `n` bytes, when they end between two characters. -/
def takeBytes : Nat → List Char → Option (List Char)
  | 0, _ => some []
  | _ + 1, [] => none
  | n + 1, c :: cs =>
    if c.utf8Size ≤ n + 1 then (takeBytes (n + 1 - c.utf8Size) cs).map (c :: ·) else none

/-- What follows the first `n` bytes, when they end between two characters. -/
def dropBytes : Nat → List Char → Option (List Char)
  | 0, cs => some cs
  | _ + 1, [] => none
  | n + 1, c :: cs => if c.utf8Size ≤ n + 1 then dropBytes (n + 1 - c.utf8Size) cs else none

/-- The bytes from `start` up to `stop`, when both lie between two characters. -/
def sliceBytes (start stop : Nat) (cs : List Char) : Option (List Char) :=
  if start ≤ stop then (dropBytes start cs).bind (takeBytes (stop - start)) else none

/-! ### Columns -/

/-- The UTF-16 column of byte `byte` of a line, when it lies between two characters. -/
def columnOfByte (line : List Char) (byte : Nat) : Option Nat :=
  (takeBytes byte line).map utf16Length

/-- The character that covers UTF-16 column `column`: both halves of a pair give the same one. -/
def charAtUnit : List Char → Nat → Option Char
  | [], _ => none
  | c :: cs, column =>
    if column < units16 c then some c else charAtUnit cs (column - units16 c)

end Inlay.Text
