/-
**Characters in messages.**

A message shows a character in single quotes.  Line breaks, tabs, the null character, the quote and
the backslash are written as escapes, and so is every character that has no visible form or that
attaches to the one before.

Main definitions:

* `Inlay.Text.quoteChar` — the quoted form of a character.
-/
import Inlay.Unicode.Property

set_option autoImplicit false

namespace Inlay.Text

/-- An escape by code point: a backslash, the letter u and hexadecimal digits in braces. -/
def codePointEscape (c : Char) : List Char :=
  ['\\', 'u', '{'] ++ Nat.toDigits 16 c.toNat ++ ['}']

/-- How a character is written between single quotes. -/
def escapeChar (c : Char) : List Char :=
  match c with
  | '\x00' => ['\\', '0']
  | '\t' => ['\\', 't']
  | '\r' => ['\\', 'r']
  | '\n' => ['\\', 'n']
  | '\'' => ['\\', '\'']
  | '\\' => ['\\', '\\']
  | c => if Unicode.isGraphemeExtend c || !Unicode.isPrintable c then codePointEscape c else [c]

/-- A character in single quotes. -/
def quoteChar (c : Char) : String :=
  String.ofList (['\''] ++ escapeChar c ++ ['\''])

end Inlay.Text
