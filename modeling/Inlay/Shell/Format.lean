/-
**Formats of the shell's printing commands.**

Both printing commands read backslash escapes, and one of them reads a format with directives, which
it uses again as long as arguments are left.

Main definitions:

* `Inlay.Shell.escape` — the bytes of the escape at the start of a text;
* `Inlay.Shell.echoBytes` — what a line of words prints;
* `Inlay.Shell.Formatted`, `Inlay.Shell.format` — what a format prints with its arguments.
-/
import Inlay.Text.Utf8

set_option autoImplicit false

namespace Inlay.Shell

/-- Whether a character is an octal digit. -/
def isOctal (c : Char) : Bool :=
  '0' ≤ c && c ≤ '7'

/-- The byte in up to three octal digits, and what follows them. -/
def octal (cs : List Char) : UInt8 × List Char :=
  let digits := (cs.take 3).takeWhile isOctal
  ((digits.foldl (fun n c => n * 8 + (c.toNat - '0'.toNat)) 0).toUInt8, cs.drop digits.length)

/-- The byte named by a letter after a backslash. -/
def escapeByte? : Char → Option UInt8
  | '\\' => some 92
  | 'a' => some 7
  | 'b' => some 8
  | 'f' => some 12
  | 'n' => some 10
  | 'r' => some 13
  | 't' => some 9
  | 'v' => some 11
  | _ => none

/-- The byte of the escape that follows a backslash, and what follows it.  A backslash before any
other character stands for itself. -/
def escape (cs : List Char) : UInt8 × List Char :=
  match cs with
  | [] => (92, [])
  | c :: rest =>
    if isOctal c then octal cs
    else
      match escapeByte? c with
      | some byte => (byte, rest)
      | none => (92, cs)

/-! ### Texts with escapes -/

/-- The bytes of a text with escapes, and whether printing stops with it; the octal digits of an escape
may have a zero before them.  Each character is used once, so the length of the text is fuel
enough. -/
def escapedBytes : Nat → List Char → List UInt8 × Bool
  | _, [] => ([], false)
  | 0, _ => ([], false)
  | fuel + 1, c :: rest =>
    if c == '\\' then
      if rest.head? == some 'c' then ([], true)
      else
        let digits := if rest.head? == some '0' && (rest.drop 1).head?.any isOctal then rest.drop 1
          else rest
        let (byte, after) := escape digits
        let (bytes, stops) := escapedBytes fuel after
        (byte :: bytes, stops)
    else
      let (bytes, stops) := escapedBytes fuel rest
      (Text.Utf8.encodeChar c ++ bytes, stops)

/-- What a line of words prints; a first word `-n` leaves the line open. -/
def echoBytes (words : List String) : List UInt8 :=
  let (isOpen, words) :=
    match words with
    | "-n" :: rest => (true, rest)
    | _ => (false, words)
  let text := (String.intercalate " " words).toList
  let (bytes, stops) := escapedBytes text.length text
  if stops || isOpen then bytes else bytes ++ [10]

/-! ### Formats -/

/-- The number that a text starts with. -/
def leadingNumber (text : String) : Int :=
  let number (cs : List Char) : Int :=
    (cs.takeWhile Char.isDigit).foldl (fun n c => n * 10 + ((c.toNat - '0'.toNat : Nat) : Int)) 0
  match text.toList with
  | '-' :: rest => -number rest
  | '+' :: rest => number rest
  | cs => number cs

/-- What a format printed. -/
structure Formatted where
  bytes : List UInt8 := []
  /-- The arguments that are left. -/
  rest : List String := []
  /-- The directive that means nothing, if one stopped the printing. -/
  unknown : Option Char := none
  /-- Whether an argument stopped the printing. -/
  stopped : Bool := false

/-- The result with bytes in front. -/
def Formatted.after (formatted : Formatted) (bytes : List UInt8) : Formatted :=
  { formatted with bytes := bytes ++ formatted.bytes }

/-- One pass over a format, of which each character is used once. -/
def formatOnce : Nat → List Char → List String → Formatted
  | _, [], words => { rest := words }
  | 0, _, words => { rest := words }
  | fuel + 1, '%' :: directive :: format, words =>
    let word := words.headD ""
    match directive with
    | '%' => (formatOnce fuel format words).after [37]
    | 's' => (formatOnce fuel format words.tail).after (Text.Utf8.encode word.toList)
    | 'c' => (formatOnce fuel format words.tail).after (Text.Utf8.encode (word.toList.take 1))
    | 'd' | 'i' =>
      (formatOnce fuel format words.tail).after
        (Text.Utf8.encode (toString (leadingNumber word)).toList)
    | 'b' =>
      let (bytes, stops) := escapedBytes word.toList.length word.toList
      if stops then { bytes, stopped := true }
      else (formatOnce fuel format words.tail).after bytes
    | other => { unknown := some other }
  | fuel + 1, '\\' :: format, words =>
    let (byte, rest) := escape format
    (formatOnce fuel rest words).after [byte]
  | fuel + 1, c :: format, words =>
    (formatOnce fuel format words).after (Text.Utf8.encodeChar c)

/-- What a format prints: it is used again as long as it takes arguments and some are left. -/
def formatMany (format : List Char) : Nat → List String → Formatted
  | 0, _ => {}
  | fuel + 1, words =>
    let once := formatOnce format.length format words
    if once.unknown.isSome || once.stopped || once.rest.isEmpty ||
        once.rest.length == words.length then once
    else (formatMany format fuel once.rest).after once.bytes

/-- What a format prints with its arguments. -/
def format (text : String) (words : List String) : Formatted :=
  formatMany text.toList (words.length + 1) words

end Inlay.Shell
