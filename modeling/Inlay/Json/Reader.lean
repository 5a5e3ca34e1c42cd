/-
**Reading JSON text.**

A recursive descent over the characters.  White space is blank, tab, line feed and carriage return;
control characters inside strings, leading zeros, trailing commas and text after the value are
refused.

Main definitions:

* `Inlay.Json.Reader.string` — a string, with surrogate escapes joined in pairs;
* `Inlay.Json.Reader.number` — a number;
* `Inlay.Json.parse?` — a whole text that holds one value.
-/
import Inlay.Json.Basic

set_option autoImplicit false

namespace Inlay.Json

namespace Reader

/-- Blank, tab, line feed and carriage return. -/
def isBlank (c : Char) : Bool :=
  c == ' ' || c == '\t' || c == '\n' || c == '\r'

/-- The text after leading white space. -/
def skip (cs : List Char) : List Char :=
  cs.dropWhile isBlank

/-! ### Strings -/

/-- The value of a hexadecimal digit. -/
def hexValue (c : Char) : Option Nat :=
  if '0' ≤ c && c ≤ '9' then some (c.toNat - '0'.toNat)
  else if 'a' ≤ c && c ≤ 'f' then some (c.toNat - 'a'.toNat + 10)
  else if 'A' ≤ c && c ≤ 'F' then some (c.toNat - 'A'.toNat + 10)
  else none

/-- The value of four hexadecimal digits. -/
def hex4 (a b c d : Char) : Option Nat :=
  match hexValue a, hexValue b, hexValue c, hexValue d with
  | some a, some b, some c, some d => some (((a * 16 + b) * 16 + c) * 16 + d)
  | _, _, _, _ => none

/-- One piece of a string: a character, or the UTF-16 unit of a `\u` escape. -/
inductive Piece where
  | char (c : Char)
  | unit (n : Nat)

/-- The character meant by a one-letter escape. -/
def simpleEscape : Char → Option Char
  | '"' => some '"'
  | '\\' => some '\\'
  | '/' => some '/'
  | 'b' => some '\x08'
  | 'f' => some '\x0c'
  | 'n' => some '\n'
  | 'r' => some '\r'
  | 't' => some '\t'
  | _ => none

/-- The pieces up to the closing quote, and the text after it. -/
def pieces : List Char → Option (List Piece × List Char)
  | [] => none
  | '"' :: rest => some ([], rest)
  | '\\' :: 'u' :: a :: b :: c :: d :: rest =>
    match hex4 a b c d, pieces rest with
    | some n, some (more, after) => some (Piece.unit n :: more, after)
    | _, _ => none
  | '\\' :: e :: rest =>
    match simpleEscape e, pieces rest with
    | some c, some (more, after) => some (Piece.char c :: more, after)
    | _, _ => none
  | c :: rest =>
    if c.toNat < 0x20 || c == '\\' then none
    else (pieces rest).map fun (more, after) => (Piece.char c :: more, after)

/-- The characters meant by the pieces; a surrogate must be the first half of a pair that is
complete. -/
def join : List Piece → Option (List Char)
  | [] => some []
  | .char c :: rest => (join rest).map (c :: ·)
  | .unit high :: .unit low :: rest =>
    if 0xD800 ≤ high && high < 0xDC00 then
      if 0xDC00 ≤ low && low < 0xE000 then
        (join rest).map (Char.ofNat (0x10000 + (high - 0xD800) * 0x400 + (low - 0xDC00)) :: ·)
      else none
    else if 0xDC00 ≤ high && high < 0xE000 then none
    else (join (.unit low :: rest)).map (Char.ofNat high :: ·)
  | .unit n :: rest =>
    if 0xD800 ≤ n && n < 0xE000 then none else (join rest).map (Char.ofNat n :: ·)

/-- A string after its opening quote. -/
def string (cs : List Char) : Option (Json × List Char) :=
  (pieces cs).map fun (found, rest) =>
    match join found with
    | some chars => (str (String.ofList chars), rest)
    | none => (unpaired, rest)

/-! ### Numbers -/

/-- Leading decimal digits, and the text after them. -/
def digits (cs : List Char) : List Char × List Char :=
  (cs.takeWhile Char.isDigit, cs.dropWhile Char.isDigit)

/-- The number written by decimal digits. -/
def natOf (ds : List Char) : Nat :=
  ds.foldl (fun n d => n * 10 + (d.toNat - '0'.toNat)) 0

/-- The digits after a decimal point, if there is one: at least one digit must follow. -/
def fraction : List Char → Option (List Char × List Char)
  | '.' :: cs =>
    match digits cs with
    | ([], _) => none
    | (ds, rest) => some (ds, rest)
  | cs => some ([], cs)

/-- The exponent, if there is one: at least one digit must follow its mark and sign. -/
def exponent : List Char → Option (Option Int × List Char)
  | c :: cs =>
    if c == 'e' || c == 'E' then
      let (sign, body) : Int × List Char :=
        match cs with
        | '-' :: tail => (-1, tail)
        | '+' :: tail => (1, tail)
        | tail => (1, tail)
      match digits body with
      | ([], _) => none
      | (ds, rest) => some (some (sign * natOf ds), rest)
    else some (none, c :: cs)
  | [] => some (none, [])

/-- The number with the given sign whose text starts with a digit. -/
def unsigned (negative : Bool) (cs : List Char) : Option (Json × List Char) :=
  let (whole, rest) := digits cs
  if whole.isEmpty || (whole.head? == some '0' && whole.length != 1) then none
  else
    match fraction rest with
    | none => none
    | some (decimals, rest) =>
      match exponent rest with
      | none => none
      | some (power, rest) =>
        let magnitude : Int := natOf (whole ++ decimals)
        let mantissa := if negative then -magnitude else magnitude
        if decimals.isEmpty && power.isNone && fitsWord mantissa
            && !(negative && magnitude == 0) then
          some (int mantissa, rest)
        else some (real mantissa (power.getD 0 - decimals.length), rest)

/-- A number. -/
def number : List Char → Option (Json × List Char)
  | '-' :: cs => unsigned true cs
  | cs => unsigned false cs

/-! ### Values -/

mutual

/-- A value and the text after it.  The fuel bounds the number of steps; the length of the text is
enough. -/
def value : Nat → List Char → Option (Json × List Char)
  | 0, _ => none
  | fuel + 1, cs =>
    match skip cs with
    | 'n' :: 'u' :: 'l' :: 'l' :: rest => some (null, rest)
    | 't' :: 'r' :: 'u' :: 'e' :: rest => some (bool true, rest)
    | 'f' :: 'a' :: 'l' :: 's' :: 'e' :: rest => some (bool false, rest)
    | '"' :: rest => string rest
    | '[' :: rest =>
      match skip rest with
      | ']' :: rest => some (arr [], rest)
      | rest => (items fuel rest).map fun (found, rest) => (arr found, rest)
    | '{' :: rest =>
      match skip rest with
      | '}' :: rest => some (obj [], rest)
      | rest => (members fuel rest).map fun (found, rest) => (obj found, rest)
    | rest => number rest

/-- The items of an array that is not empty, up to its closing bracket. -/
def items : Nat → List Char → Option (List Json × List Char)
  | 0, _ => none
  | fuel + 1, cs =>
    match value fuel cs with
    | none => none
    | some (item, rest) =>
      match skip rest with
      | ']' :: rest => some ([item], rest)
      | ',' :: rest => (items fuel rest).map fun (found, rest) => (item :: found, rest)
      | _ => none

/-- The members of an object that is not empty, up to its closing brace. -/
def members : Nat → List Char → Option (List (String × Json) × List Char)
  | 0, _ => none
  | fuel + 1, cs =>
    match skip cs with
    | '"' :: rest =>
      match string rest with
      | some (str key, rest) =>
        match skip rest with
        | ':' :: rest =>
          match value fuel rest with
          | none => none
          | some (item, rest) =>
            match skip rest with
            | '}' :: rest => some ([(key, item)], rest)
            | ',' :: rest =>
              (members fuel rest).map fun (found, rest) => ((key, item) :: found, rest)
            | _ => none
        | _ => none
      | _ => none
    | _ => none

end

end Reader

/-- The value that a text holds, white space around it apart. -/
def parse? (text : String) : Option Json :=
  let cs := text.toList
  match Reader.value (cs.length + 1) cs with
  | some (found, rest) => if (Reader.skip rest).isEmpty then some found else none
  | none => none

end Inlay.Json
