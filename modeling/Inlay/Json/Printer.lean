/-
**Writing JSON text.**

Two layouts: compact, without any white space, and pretty, with one member or item a line and two
blanks a level.  In strings the quote, the backslash and control characters are escaped and all
other characters stand for themselves.

Main definitions:

* `Inlay.Json.quote` — a string with its quotes;
* `Inlay.Json.compact` — the compact text;
* `Inlay.Json.pretty` — the pretty text.
-/
import Inlay.Json.Basic

set_option autoImplicit false

namespace Inlay.Json

/-- A hexadecimal digit in lower case. -/
def hexDigit (n : Nat) : Char :=
  if n < 10 then Char.ofNat ('0'.toNat + n) else Char.ofNat ('a'.toNat + (n - 10))

/-- How a character is written inside a string. -/
def escape (c : Char) : List Char :=
  match c with
  | '"' => ['\\', '"']
  | '\\' => ['\\', '\\']
  | '\x08' => ['\\', 'b']
  | '\x0c' => ['\\', 'f']
  | '\n' => ['\\', 'n']
  | '\r' => ['\\', 'r']
  | '\t' => ['\\', 't']
  | c =>
    if c.toNat < 0x20 then
      ['\\', 'u', '0', '0', hexDigit (c.toNat / 16), hexDigit (c.toNat % 16)]
    else [c]

/-- A string with its quotes. -/
def quote (text : String) : String :=
  String.ofList ('"' :: text.toList.flatMap escape ++ ['"'])

/-- The decimal digits of an integer. -/
def intText (n : Int) : String :=
  let digits := String.ofList (Nat.toDigits 10 n.natAbs)
  if n < 0 then "-" ++ digits else digits

mutual

/-- The compact text. -/
def compact : Json → String
  | null => "null"
  | bool true => "true"
  | bool false => "false"
  | int n => intText n
  | real mantissa exponent => intText mantissa ++ "e" ++ intText exponent
  | str text => quote text
  | unpaired => quote ""
  | arr items => "[" ++ compactItems items ++ "]"
  | obj members => "\x7b" ++ compactMembers members ++ "\x7d"

/-- The items, commas between them. -/
def compactItems : List Json → String
  | [] => ""
  | [item] => compact item
  | item :: rest => compact item ++ "," ++ compactItems rest

/-- The members, commas between them. -/
def compactMembers : List (String × Json) → String
  | [] => ""
  | [(key, value)] => quote key ++ ":" ++ compact value
  | (key, value) :: rest => quote key ++ ":" ++ compact value ++ "," ++ compactMembers rest

end

/-- A new line, indented for `level`. -/
def newLine (level : Nat) : String :=
  "\n" ++ String.ofList (List.replicate (2 * level) ' ')

mutual

/-- The pretty text of a value that stands at `level`. -/
def prettyAt : Nat → Json → String
  | _, arr [] => "[]"
  | level, arr items => "[" ++ prettyItems (level + 1) items ++ newLine level ++ "]"
  | _, obj [] => "\x7b\x7d"
  | level, obj members => "\x7b" ++ prettyMembers (level + 1) members ++ newLine level ++ "\x7d"
  | _, null => "null"
  | _, bool true => "true"
  | _, bool false => "false"
  | _, int n => intText n
  | _, real mantissa exponent => intText mantissa ++ "e" ++ intText exponent
  | _, str text => quote text
  | _, unpaired => quote ""

/-- The items, each on a line of its own. -/
def prettyItems : Nat → List Json → String
  | _, [] => ""
  | level, [item] => newLine level ++ prettyAt level item
  | level, item :: rest => newLine level ++ prettyAt level item ++ "," ++ prettyItems level rest

/-- The members, each on a line of its own. -/
def prettyMembers : Nat → List (String × Json) → String
  | _, [] => ""
  | level, [(key, value)] => newLine level ++ quote key ++ ": " ++ prettyAt level value
  | level, (key, value) :: rest =>
    newLine level ++ quote key ++ ": " ++ prettyAt level value ++ "," ++ prettyMembers level rest

end

/-- The pretty text. -/
def pretty (json : Json) : String :=
  prettyAt 0 json

end Inlay.Json
