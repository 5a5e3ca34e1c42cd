/-
**Machine words.**

Positions are natural numbers, but they travel through 64-bit words: the walk over a line stops where an
unsigned word would overflow, plain sums of lines and of columns wrap around, and so do large columns in
the encoder, which works with signed words.

Main definitions:

* `Inlay.Word.size` — the number of words;
* `Inlay.Word.signed` — an integer taken as a signed word;
* `Inlay.Word.add` — the sum of unsigned words;
* `Inlay.Word.add?`, `Inlay.Word.addSigned?` — sums that fit.

Main results:

* `Inlay.Word.add_of_lt` — a sum that fits is the sum;
* `Inlay.Word.signed_of_fits` — small integers stay what they are.
-/

set_option autoImplicit false

namespace Inlay.Word

/-- The number of 64-bit words. -/
def size : Nat :=
  0x10000000000000000

/-- An integer taken modulo the word size, between `-2 ^ 63` and `2 ^ 63 - 1`. -/
def signed (n : Int) : Int :=
  Int.bmod n size

/-- Whether an integer is a signed word. -/
def Fits (n : Int) : Prop :=
  -0x8000000000000000 ≤ n ∧ n < 0x8000000000000000

instance (n : Int) : Decidable (Fits n) :=
  inferInstanceAs (Decidable (_ ∧ _))

/-- The sum of two unsigned words, modulo the number of words. -/
def add (a b : Nat) : Nat :=
  (a + b) % size

/-- The sum of two natural numbers, when it is an unsigned word. -/
def add? (a b : Nat) : Option Nat :=
  if a + b < size then some (a + b) else none

/-- The sum of two integers, when it is a signed word. -/
def addSigned? (a b : Int) : Option Int :=
  if Fits (a + b) then some (a + b) else none

theorem add_of_lt {a b : Nat} (h : a + b < size) : add a b = a + b :=
  Nat.mod_eq_of_lt h

theorem signed_of_fits {n : Int} (h : Fits n) : signed n = n := by
  obtain ⟨hlow, hhigh⟩ := h
  unfold signed size
  rw [Int.bmod_eq_of_le] <;> omega

end Inlay.Word
