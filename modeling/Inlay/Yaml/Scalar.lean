/-
**Scalars of a YAML document.**

The five ways to write a text: plain, in single or double quotes, and as a literal or folded block.
A scalar may run over several lines; a line break then counts as a blank, and empty lines as breaks.

Main definitions:

* `Inlay.Yaml.Place` — the text that is left, with the column reached;
* `Inlay.Yaml.Scalar` — a text, and whether it was written plain;
* `Inlay.Yaml.plain`, `Inlay.Yaml.singleQuoted`, `Inlay.Yaml.doubleQuoted`, `Inlay.Yaml.block` — the
  readers; each gives the text and the place after it.
-/
import Inlay.Pattern.Reader
import Inlay.Text.Split

set_option autoImplicit false

namespace Inlay.Yaml

/-- The text that is left. -/
structure Place where
  rest : List Char
  /-- The column at which it starts. -/
  column : Nat
  /-- Whether nothing but blanks stands before it on its line. -/
  fresh : Bool

/-- A scalar. -/
structure Scalar where
  text : String
  /-- Whether it was written without quotes and not as a block. -/
  plain : Bool
  deriving DecidableEq, Repr

namespace Place

/-- The place after the first `n` characters, none of them a newline. -/
def advance (place : Place) (n : Nat) : Place :=
  { rest := place.rest.drop n, column := place.column + n, fresh := false }

end Place

/-- Blank or tab. -/
def isBlank (c : Char) : Bool :=
  c == ' ' || c == '\t'

/-- Whether white space or the end of the text comes next. -/
def blankNext : List Char → Bool
  | [] => true
  | c :: _ => isBlank c || c == '\n'

/-- Whether a document marker stands here: at the start of a line, white space after it. -/
def atMarker (place : Place) : Bool :=
  place.column == 0 &&
    match place.rest with
    | '-' :: '-' :: '-' :: rest => blankNext rest
    | '.' :: '.' :: '.' :: rest => blankNext rest
    | _ => false

/-- Skips white space and line breaks: the number of breaks, and the place after them.  A tab that
indents a line by less than `indent` columns is refused. -/
def skipBreaks (indent : Nat) : List Char → Nat → Nat → Option (Nat × Place)
  | [], column, breaks => some (breaks, { rest := [], column, fresh := breaks != 0 })
  | c :: rest, column, breaks =>
    if c == '\n' then skipBreaks indent rest 0 (breaks + 1)
    else if c == '\t' && breaks != 0 && column < indent then none
    else if isBlank c then skipBreaks indent rest (column + 1) breaks
    else some (breaks, { rest := c :: rest, column, fresh := breaks != 0 })

/-- What white space with a number of line breaks in it stands for: one break is a blank, and each
further one a break. -/
def folded (breaks : Nat) (blanks : List Char) : List Char :=
  match breaks with
  | 0 => blanks
  | 1 => [' ']
  | breaks + 1 => List.replicate breaks '\n'

/-! ### Plain scalars -/

/-- The characters that never start a plain scalar. -/
def indicators : List Char :=
  [',', '[', ']', '{', '}', '#', '&', '*', '!', '|', '>', '\'', '"', '%', '@', '\x60']

/-- The characters that end a plain scalar inside braces. -/
def flowIndicators : List Char :=
  [',', '[', ']', '{', '}']

/-- Whether a plain scalar may start here. -/
def startsPlain (flow : Bool) : List Char → Bool
  | [] => false
  | '-' :: rest => !blankNext rest
  | '?' :: rest => !flow && !blankNext rest
  | ':' :: rest => !flow && !blankNext rest
  | c :: _ => !(isBlank c || c == '\n' || indicators.contains c)

/-- The part of a plain scalar on one line, blanks after it included, and the text after it.
`spaced` tells that a blank stands before. -/
def plainRun (flow : Bool) : Bool → List Char → List Char × List Char
  | _, [] => ([], [])
  | spaced, c :: rest =>
    if c == '\n' || (c == '#' && spaced) || (c == ':' && blankNext rest)
        || (flow && flowIndicators.contains c) then ([], c :: rest)
    else
      let (more, after) := plainRun flow (isBlank c) rest
      (c :: more, after)

/-- The text without blanks at its end. -/
def trimEnd (cs : List Char) : List Char :=
  (cs.reverse.dropWhile isBlank).reverse

/-- The lines of a plain scalar; those after the first are indented by `indent` at least, inside
braces by any amount. -/
def plainLines (flow : Bool) (indent : Nat) : Nat → Place → Option (List Char × Place)
  | 0, _ => none
  | fuel + 1, place =>
    let (run, after) := plainRun flow true place.rest
    let text := trimEnd run
    let stop := place.column + run.length
    match after with
    | '\n' :: _ =>
      match skipBreaks indent after stop 0 with
      | none => none
      | some (breaks, next) =>
        let continues := (flow || indent ≤ next.column) && !atMarker next
          && !(plainRun flow true next.rest).1.isEmpty
        if continues then
          (plainLines flow indent fuel next).map fun (more, last) =>
            (text ++ folded breaks [] ++ more, last)
        else some (text, next)
    | _ => some (text, { rest := after, column := stop, fresh := false })

/-- A plain scalar. -/
def plain (flow : Bool) (indent : Nat) (place : Place) : Option (Scalar × Place) :=
  if startsPlain flow place.rest then
    (plainLines flow indent (place.rest.length + 1) place).map fun (text, after) =>
      ({ text := String.ofList text, plain := true }, after)
  else none

/-! ### Quoted scalars -/

/-- White space inside quotes: what it stands for, and the place after it.  Blanks around a line
break vanish. -/
def quotedSpace (place : Place) : Option (List Char × Place) :=
  (skipBreaks 0 place.rest place.column 0).map fun (breaks, after) =>
    (folded breaks (place.rest.takeWhile isBlank), after)

/-- The text of a scalar in single quotes after the opening one; a doubled quote is a quote. -/
def singleBody : Nat → Place → Option (List Char × Place)
  | 0, _ => none
  | fuel + 1, place =>
    if atMarker place then none
    else
      match place.rest with
      | [] => none
      | '\'' :: '\'' :: _ =>
        (singleBody fuel (place.advance 2)).map fun (more, after) => ('\'' :: more, after)
      | '\'' :: _ => some ([], place.advance 1)
      | c :: _ =>
        if isBlank c || c == '\n' then
          match quotedSpace place with
          | none => none
          | some (space, after) =>
            (singleBody fuel after).map fun (more, last) => (space ++ more, last)
        else (singleBody fuel (place.advance 1)).map fun (more, after) => (c :: more, after)

/-- A scalar in single quotes. -/
def singleQuoted (place : Place) : Option (Scalar × Place) :=
  (singleBody place.rest.length (place.advance 1)).map fun (text, after) =>
    ({ text := String.ofList text, plain := false }, { after with fresh := false })

/-- The character of a one-letter escape. -/
def letterEscape : Char → Option Char
  | '0' => some '\x00'
  | 'a' => some '\x07'
  | 'b' => some '\x08'
  | 't' => some '\t'
  | '\t' => some '\t'
  | 'n' => some '\n'
  | 'v' => some '\x0b'
  | 'f' => some '\x0c'
  | 'r' => some '\r'
  | 'e' => some '\x1b'
  | ' ' => some ' '
  | '"' => some '"'
  | '\'' => some '\''
  | '/' => some '/'
  | '\\' => some '\\'
  | 'N' => some '\u0085'
  | '_' => some '\u00a0'
  | 'L' => some '\u2028'
  | 'P' => some '\u2029'
  | _ => none

/-- A character by its code in `width` digits, and the number of characters read. -/
def codeEscape (width : Nat) (cs : List Char) : Option (Char × Nat) :=
  let ds := cs.take width
  if ds.length = width then
    ((Pattern.Reader.hexNumber ds).bind Pattern.Reader.scalar).map fun c => (c, width + 1)
  else none

/-- An escape after its backslash: the character, and the number of characters read. -/
def doubleEscape : List Char → Option (Char × Nat)
  | [] => none
  | 'x' :: rest => codeEscape 2 rest
  | 'u' :: rest => codeEscape 4 rest
  | 'U' :: rest => codeEscape 8 rest
  | c :: _ => (letterEscape c).map fun c => (c, 1)

/-- The text of a scalar in double quotes after the opening one. -/
def doubleBody : Nat → Place → Option (List Char × Place)
  | 0, _ => none
  | fuel + 1, place =>
    if atMarker place then none
    else
      match place.rest with
      | [] => none
      | '"' :: _ => some ([], place.advance 1)
      | '\\' :: '\n' :: rest =>
        match skipBreaks 0 rest 0 0 with
        | none => none
        | some (breaks, after) =>
          (doubleBody fuel after).map fun (more, last) => (List.replicate breaks '\n' ++ more, last)
      | '\\' :: tail =>
        match doubleEscape tail with
        | none => none
        | some (c, width) =>
          (doubleBody fuel (place.advance (width + 1))).map fun (more, after) => (c :: more, after)
      | c :: _ =>
        if isBlank c || c == '\n' then
          match quotedSpace place with
          | none => none
          | some (space, after) =>
            (doubleBody fuel after).map fun (more, last) => (space ++ more, last)
        else (doubleBody fuel (place.advance 1)).map fun (more, after) => (c :: more, after)

/-- A scalar in double quotes. -/
def doubleQuoted (place : Place) : Option (Scalar × Place) :=
  (doubleBody place.rest.length (place.advance 1)).map fun (text, after) =>
    ({ text := String.ofList text, plain := false }, { after with fresh := false })

/-! ### Block scalars -/

/-- What becomes of the line breaks at the end of a block. -/
inductive Chomping where
  /-- All are dropped. -/
  | strip
  /-- The first is kept. -/
  | clip
  /-- All are kept. -/
  | keep

/-- The chomping that a sign asks for. -/
def Chomping.ofSign : Char → Option Chomping
  | '+' => some .keep
  | '-' => some .strip
  | _ => none

/-- The indentation that a digit asks for; zero is refused by the readers of headers. -/
def indentDigit (c : Char) : Option Nat :=
  if '0' ≤ c && c ≤ '9' then some (c.toNat - '0'.toNat) else none

/-- The indicators after the mark of a block: chomping, the indentation if it is given, and the text
after them. -/
def blockHeader (cs : List Char) : Chomping × Option Nat × List Char :=
  match cs with
  | [] => (.clip, none, [])
  | c :: rest =>
    match Chomping.ofSign c, indentDigit c, rest with
    | some chomping, _, d :: tail =>
      match indentDigit d with
      | some n => (chomping, some n, tail)
      | none => (chomping, none, rest)
    | some chomping, _, [] => (chomping, none, [])
    | none, some n, s :: tail =>
      match Chomping.ofSign s with
      | some chomping => (chomping, some n, tail)
      | none => (.clip, some n, rest)
    | none, some n, [] => (.clip, some n, [])
    | none, none, _ => (.clip, none, cs)

/-- The number of blanks at the start of a line. -/
def leadingBlanks (line : List Char) : Nat :=
  (line.takeWhile (· == ' ')).length

/-- Whether a line has no more than its first `n` characters before its break. -/
def endsAt (n : Nat) (line : List Char) : Bool :=
  (line.drop n).isEmpty || line.drop n == ['\n']

/-- The indentation of the first line that holds more than blanks, or the deepest one before it. -/
def detectIndent : List (List Char) → Nat → Nat
  | [], deepest => deepest
  | line :: rest, deepest =>
    let blanks := leadingBlanks line
    if endsAt blanks line then detectIndent rest (max deepest blanks) else max deepest blanks

/-- The lines of a block, the indentation taken away, and the lines after it.  A line of blanks no
deeper than the indentation is empty; the first other line that is indented less ends the block. -/
def blockLines (indent : Nat) : List (List Char) → List (List Char) × List (List Char)
  | [] => ([], [])
  | line :: rest =>
    let blanks := leadingBlanks line
    let (inside, after) := blockLines indent rest
    if endsAt blanks line && blanks ≤ indent then (line.drop blanks :: inside, after)
    else if indent ≤ blanks then (line.drop indent :: inside, after)
    else ([], line :: rest)

/-- Whether a line starts with white space. -/
def startsBlank : List Char → Bool
  | c :: _ => isBlank c
  | [] => false

/-- Whether a line of a block is empty. -/
def isEmptyLine (line : List Char) : Bool :=
  line.isEmpty || line == ['\n']

/-- A line without its break. -/
def bare (line : List Char) : List Char :=
  line.filter (· != '\n')

/-- The text of a folded block after its first line: between two lines that do not start with white
space a break is a blank, unless empty lines stand between them.  `before` is the line before,
`empties` the number of empty lines since. -/
def foldedText : List Char → Nat → List (List Char) → List Char
  | _, _, [] => []
  | before, empties, line :: rest =>
    if isEmptyLine line then foldedText before (empties + 1) rest
    else
      let joint :=
        if !startsBlank before && !startsBlank line then
          if empties == 0 then [' '] else List.replicate empties '\n'
        else List.replicate (empties + 1) '\n'
      joint ++ bare line ++ foldedText line 0 rest

/-- The text of the lines of a block. -/
def blockText (isLiteral : Bool) (chomping : Chomping) (inside : List (List Char)) : List Char :=
  let front := inside.takeWhile isEmptyLine
  let back := (inside.drop front.length).reverse.takeWhile isEmptyLine
  let content := ((inside.drop front.length).reverse.drop back.length).reverse
  match content, content.getLast? with
  | first :: more, some last =>
    let main :=
      if isLiteral then bare first ++ more.flatMap ('\n' :: bare ·)
      else bare first ++ foldedText first 0 more
    let lastBreak := last.filter (· == '\n')
    let tail :=
      match chomping with
      | .strip => []
      | .clip => lastBreak
      | .keep => lastBreak ++ back.reverse.flatten
    front.flatten ++ main ++ tail
  | _, _ =>
    match chomping with
    | .keep => front.flatten
    | _ => []

/-- A block scalar after its mark, inside a mapping at column `parent`. -/
def block (isLiteral : Bool) (parent : Nat) (rest : List Char) : Option (Scalar × Place) :=
  let (chomping, explicit, rest) := blockHeader rest
  let tail := rest.dropWhile isBlank
  let tail := if tail.head? == some '#' then tail.dropWhile (· != '\n') else tail
  let indented (indent : Nat) (body : List Char) : Option (Scalar × Place) :=
    let (inside, after) := blockLines indent (Text.pieces body)
    some ({ text := String.ofList (blockText isLiteral chomping inside), plain := false },
      { rest := after.flatten, column := 0, fresh := true })
  match tail, explicit with
  | _, some 0 => none
  | [], _ => indented 1 []
  | '\n' :: body, some n => indented (parent + n) body
  | '\n' :: body, none => indented (max (detectIndent (Text.pieces body) 0) (parent + 1)) body
  | _, _ => none

end Inlay.Yaml
