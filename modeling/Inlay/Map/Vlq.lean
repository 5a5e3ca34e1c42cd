/-
**Variable-length quantities in base 64.**

A signed number is written with its sign in the lowest bit, in digits of five bits, lowest first;
every digit but the last carries the continuation bit.  Digits are letters of the base-64 alphabet.
The number travels through an unsigned 64-bit word, in which the bits beyond the top are lost.

Main definitions:

* `Inlay.Vlq.digitChar`, `Inlay.Vlq.digitValue?` — the alphabet;
* `Inlay.Vlq.encode` — the digits of a number;
* `Inlay.Vlq.decode` — all numbers written in a text.

Main results:

* `Inlay.Vlq.digitValue?_digitChar` — a digit reads back as itself.
-/
import Inlay.Text.Quoted
import Inlay.Word

set_option autoImplicit false

namespace Inlay.Vlq

/-- What is wrong with a text of digits. -/
inductive Fault where
  /-- A character is no digit. -/
  | invalidDigit (c : Char)
  /-- A number has too many digits. -/
  | tooWide
  /-- The text ends inside a number. -/
  | truncated
  deriving DecidableEq, Repr

/-- The letter of a digit below 64. -/
def digitChar (d : Nat) : Char :=
  if d < 26 then Char.ofNat ('A'.toNat + d)
  else if d < 52 then Char.ofNat ('a'.toNat + (d - 26))
  else if d < 62 then Char.ofNat ('0'.toNat + (d - 52))
  else if d = 62 then '+'
  else '/'

/-- The digit that a letter stands for. -/
def digitValue? (c : Char) : Option Nat :=
  if 'A' ≤ c ∧ c ≤ 'Z' then some (c.toNat - 'A'.toNat)
  else if 'a' ≤ c ∧ c ≤ 'z' then some (c.toNat - 'a'.toNat + 26)
  else if '0' ≤ c ∧ c ≤ '9' then some (c.toNat - '0'.toNat + 52)
  else if c = '+' then some 62
  else if c = '/' then some 63
  else none

theorem digitValue?_digitChar {d : Nat} (h : d < 64) : digitValue? (digitChar d) = some d := by
  have hall : ∀ e ∈ List.range 64, digitValue? (digitChar e) = some e := by decide
  exact hall d (List.mem_range.2 h)

/-! ### Writing -/

/-- The digits of an unsigned number, lowest first, at least one. -/
def digits (n : Nat) : List Nat :=
  if n < 32 then [n] else (n % 32 + 32) :: digits (n / 32)
termination_by n

/-- The unsigned word for a signed number: the magnitude shifted left, the sign in the lowest bit. -/
def zigzag (n : Int) : Nat :=
  if n < 0 then 2 * n.natAbs % Word.size + 1 else 2 * n.natAbs % Word.size

/-- The digits of a signed number. -/
def encode (n : Int) : List Char :=
  (digits (zigzag n)).map digitChar

/-! ### Reading -/

/-- The signed number of an unsigned word. -/
def unzigzag (n : Nat) : Int :=
  if n % 2 = 1 then -((n / 2 : Nat) : Int) else ((n / 2 : Nat) : Int)

/-- The numbers in a text.  `word` holds the bits of the current number that were read so far, and
`shift` their count. -/
def decodeFrom (word shift : Nat) : List Char → Except Fault (List Int)
  | [] => if shift = 0 then .ok [] else .error .truncated
  | c :: cs =>
    match digitValue? c with
    | none => .error (.invalidDigit c)
    | some digit =>
      if 60 < shift then .error .tooWide
      else
        let word := word + (digit % 32) <<< shift % Word.size
        if digit < 32 then (decodeFrom 0 0 cs).map (unzigzag word :: ·)
        else decodeFrom word (shift + 5) cs

/-- The numbers in a text, in order. -/
def decode (cs : List Char) : Except Fault (List Int) :=
  decodeFrom 0 0 cs

end Inlay.Vlq
