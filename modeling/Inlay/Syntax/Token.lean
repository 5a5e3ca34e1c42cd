/-
**Tokens.**

Words, marks, numbers, strings, templates and pattern literals.

Main definitions:

* `Inlay.Syntax.wordAt` — the word at the start of a code;
* `Inlay.Syntax.symbolAt` — the longest mark at the start of a code;
* `Inlay.Syntax.keyword`, `Inlay.Syntax.mark` — tokens;
* `Inlay.Syntax.identifier`, `Inlay.Syntax.number`, `Inlay.Syntax.quoted`,
  `Inlay.Syntax.patternLiteral` — leaves.
-/
import Inlay.Json.Reader
import Inlay.Syntax.Reader

set_option autoImplicit false

namespace Inlay.Syntax

/-! ### Words -/

/-- The characters of the marks, which no word holds. -/
def markChars : List Char :=
  [':', ';', '\x60', '"', '\'', '@', '#', '.', ',', '|', '^', '&', '<', '=', '>', '+', '-', '*',
    '/', '\\', '%', '?', '!', '~', '(', ')', '[', ']', '{', '}']

/-- Whether a word may hold the character after its start. -/
def isWordChar (c : Char) : Bool :=
  !(c.toNat < 0x20 || isSpace c || markChars.contains c)

/-- Whether a character is a decimal digit. -/
def isDigit (c : Char) : Bool :=
  '0' ≤ c && c ≤ '9'

/-- The number of hexadecimal digits at the start of a code. -/
def hexRun (code : List Char) : Nat :=
  (code.takeWhile fun c => (Json.Reader.hexValue c).isSome).length

/-- The length of the escape that a word may hold in place of a character: four hexadecimal digits, or any
number of them in braces.  It is zero if there is none at the start of a code. -/
def wordEscape : List Char → Nat
  | '\\' :: 'u' :: '{' :: rest =>
    let n := hexRun rest
    if n != 0 && (rest.drop n).head? == some '}' then n + 4 else 0
  | '\\' :: 'u' :: rest => if 4 ≤ hexRun rest then 6 else 0
  | _ => 0

/-- The characters and escapes of a word; the given number of characters belongs to an escape that was met
before. -/
def wordFrom : Nat → List Char → List Char
  | _, [] => []
  | left + 1, c :: rest => c :: wordFrom left rest
  | 0, c :: rest =>
    if isWordChar c then c :: wordFrom 0 rest
    else
      match wordEscape (c :: rest) with
      | left + 1 => c :: wordFrom left rest
      | 0 => []

/-- The word at the start of a code; empty if there is none. -/
def wordAt (code : List Char) : List Char :=
  if code.head?.any isDigit then [] else wordFrom 0 code

/-- Whether a given word stands at the start of a code. -/
def hasWord (word : String) (code : List Char) : Bool :=
  wordAt code == word.toList

/-- A given word as a token. -/
def keyword (word : String) : Row := do
  Reader.ensure (hasWord word)
  leaf (.token word) word.length

/-- A given word as a node of its own. -/
def wordNode (word : String) : Row := do
  Reader.ensure (hasWord word)
  leaf (.other word) word.length

/-- One of several words as a token. -/
def keywordOf (words : List String) : Row :=
  oneOf (words.map keyword)

/-- Any word, as a leaf whose kind depends on it. -/
def anyWord (kind : String → TreeKind) : Row := do
  let word := wordAt (← Reader.rest)
  if word.isEmpty then Reader.fail else leaf (kind (String.ofList word)) word.length

/-- Words that are never names of values. -/
def reserved : List String :=
  ["break", "case", "catch", "class", "const", "continue", "debugger", "default", "delete", "do",
    "else", "enum", "export", "extends", "false", "finally", "for", "function", "if", "import", "in",
    "instanceof", "new", "null", "return", "super", "switch", "this", "throw", "true", "try",
    "typeof", "undefined", "var", "void", "while", "with"]

/-- The name of a value. -/
def identifier : Row := do
  let word := String.ofList (wordAt (← Reader.rest))
  if reserved.contains word then Reader.fail else anyWord .identifier

/-- The name of a binding; the word alone decides nothing where only a name can stand. -/
def bindingName : Row :=
  anyWord .identifier

/-- The name of a property, which may be any word. -/
def propertyWord : Row :=
  anyWord .identifier

/-- The name of a type. -/
def typeName : Row :=
  anyWord fun _ => .other "type_identifier"

/-- The name of a private member. -/
def privateName : Row := do
  match ← Reader.rest with
  | '#' :: rest =>
    let word := wordAt rest
    if word.isEmpty then Reader.fail
    else leaf (.other "private_property_identifier") (word.length + 1)
  | _ => Reader.fail

/-! ### Marks -/

/-- All marks, longer ones first. -/
def symbols : List String :=
  [">>>=", "...", "===", "!==", "**=", "<<=", ">>=", ">>>", "&&=", "||=", "??=", "=>", "==", "!=",
    "<=", ">=", "&&", "||", "??", "?.", "++", "--", "+=", "-=", "*=", "/=", "%=", "&=", "|=", "^=",
    "<<", ">>", "**", "\x7b", "\x7d", "(", ")", "[", "]", ";", ",", "<", ">", "+", "-", "*", "/",
    "%", "&", "|", "^", "!", "~", "?", ":", "=", ".", "@"]

/-- The longest mark at the start of a code.  A question mark before a decimal fraction is one. -/
def symbolAt (code : List Char) : Option String :=
  match code with
  | '?' :: '.' :: c :: _ =>
    if isDigit c then some "?" else some "?."
  | _ => symbols.find? fun symbol => symbol.toList.isPrefixOf code

/-- Whether a given mark stands at the start of a code. -/
def hasSymbol (symbol : String) (code : List Char) : Bool :=
  symbolAt code == some symbol

/-- A given mark as a token. -/
def mark (symbol : String) : Row := do
  Reader.ensure (hasSymbol symbol)
  leaf (.token symbol) symbol.length

/-- One of several marks as a token. -/
def markOf (symbols : List String) : Row := do
  match symbolAt (← Reader.rest) with
  | some symbol => if symbols.contains symbol then mark symbol else Reader.fail
  | none => Reader.fail

/-- A given character as a token, whatever follows it. -/
def charMark (c : Char) : Row := do
  Reader.ensure fun code => code.head? == some c
  leaf (.token c.toString) 1

/-! ### Numbers -/

/-- The length of the digits, with underscores between them, at the start of a code. -/
def digitsLength (test : Char → Bool) (code : List Char) : Nat :=
  (code.takeWhile fun c => test c || c == '_').length

/-- The length of an exponent at the start of a code. -/
def exponentLength (code : List Char) : Nat :=
  match code with
  | e :: rest =>
    if e == 'e' || e == 'E' then
      match rest with
      | s :: more =>
        if s == '+' || s == '-' then
          let n := digitsLength isDigit more
          if n == 0 then 0 else n + 2
        else
          let n := digitsLength isDigit rest
          if n == 0 then 0 else n + 1
      | [] => 0
    else 0
  | [] => 0

/-- The length of a number in another base, its two-character mark included. -/
def basedLength (code : List Char) : Option Nat :=
  match code with
  | '0' :: b :: rest =>
    if b == 'x' || b == 'X' then
      some (digitsLength (fun c => (Json.Reader.hexValue c).isSome) rest + 2)
    else if b == 'o' || b == 'O' then some (digitsLength (fun c => '0' ≤ c && c ≤ '7') rest + 2)
    else if b == 'b' || b == 'B' then some (digitsLength (fun c => c == '0' || c == '1') rest + 2)
    else none
  | _ => none

/-- The length of a decimal number. -/
def decimalLength (code : List Char) : Nat :=
  let whole := digitsLength isDigit code
  let fraction :=
    match code.drop whole with
    | '.' :: rest => digitsLength isDigit rest + 1
    | _ => 0
  let front := whole + fraction
  front + exponentLength (code.drop front)

/-- The length of the number at the start of a code. -/
def numberLength (code : List Char) : Option Nat :=
  let starts :=
    match code with
    | '.' :: c :: _ => isDigit c
    | c :: _ => isDigit c
    | [] => false
  if starts then
    let n := (basedLength code).getD (decimalLength code)
    some (if (code.drop n).head? == some 'n' then n + 1 else n)
  else none

/-- A number. -/
def number : Row := do
  match numberLength (← Reader.rest) with
  | some n => leaf (.other "number") n
  | none => Reader.fail

/-! ### Strings -/

/-- The length of the escape at the start of a code. -/
def escapeLength : List Char → Option Nat
  | '\\' :: 'x' :: rest => some (2 + min 2 (hexRun rest))
  | '\\' :: 'u' :: '{' :: rest => some (4 + (rest.takeWhile (· != '}')).length)
  | '\\' :: 'u' :: rest => some (2 + min 4 (hexRun rest))
  | '\\' :: '\r' :: '\n' :: _ => some 3
  | '\\' :: c :: rest =>
    if '0' ≤ c && c ≤ '7' then
      some (2 + min 2 (rest.takeWhile fun c => '0' ≤ c && c ≤ '7').length)
    else some 2
  | _ => none

/-- An escape. -/
def escape : Row := do
  match escapeLength (← Reader.rest) with
  | some n => leaf (.other "escape_sequence") n
  | none => Reader.fail

/-- The text of a string up to its next escape or its end. -/
def stringFragment (quote : Char) : Row := do
  let code ← Reader.rest
  let n := (code.takeWhile fun c => !(c == quote || c == '\\' || c == '\n' || c == '\r')).length
  if n == 0 then Reader.fail else leaf (.other "string_fragment") n

/-- A string in a given kind of quotes. -/
def stringIn (quote : Char) : Row :=
  named "string" (row [charMark quote, many (stringFragment quote <|> escape), charMark quote])

/-- A string. -/
def quoted : Row :=
  stringIn '"' <|> stringIn '\''

/-- The length of the text of a template up to its next escape, substitution or end. -/
def templateLength : List Char → Nat
  | '$' :: '{' :: _ => 0
  | c :: rest => if c == '\x60' || c == '\\' then 0 else templateLength rest + 1
  | [] => 0

/-- The text of a template up to its next escape, substitution or end. -/
def templateFragment : Row := do
  let n := templateLength (← Reader.rest)
  if n == 0 then Reader.fail else leaf (.other "string_fragment") n

/-! ### Pattern literals -/

/-- The length of the body of a pattern literal; inside brackets a slash does not end it. -/
def patternLength : List Char → Bool → Nat → Option Nat
  | [], _, _ => none
  | '\\' :: c :: rest, bracketed, n =>
    if c == '\n' then none else patternLength rest bracketed (n + 2)
  | c :: rest, bracketed, n =>
    if c == '\n' then none
    else if c == '/' && !bracketed then some n
    else if c == '[' then patternLength rest true (n + 1)
    else if c == ']' then patternLength rest false (n + 1)
    else patternLength rest bracketed (n + 1)

/-- The flags of a pattern literal. -/
def patternFlags : Row := do
  let n := ((← Reader.rest).takeWhile fun c => 'a' ≤ c && c ≤ 'z').length
  if n == 0 then Reader.fail else leaf (.other "regex_flags") n

/-- A pattern literal. -/
def patternLiteral : Row := do
  match ← Reader.rest with
  | '/' :: rest =>
    match patternLength rest false 0 with
    | some (n + 1) =>
      named "regex" (row [charMark '/', field "pattern" (leaf (.other "regex_pattern") (n + 1)),
        charMark '/', optional (field "flags" patternFlags)])
    | _ => Reader.fail
  | _ => Reader.fail

end Inlay.Syntax
