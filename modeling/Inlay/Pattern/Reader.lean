/-
**Reading patterns.**

The usual notation: alternatives, groups with flags, counted repetition, bracketed sets with nested
sets and set operations, Unicode properties, and assertions.  There is no look-around and no
back-reference; an unknown escape, an operator without operand and an unbalanced parenthesis are
refused, while a lone closing bracket or brace stands for itself.

Main definitions:

* `Inlay.Pattern.Flags` — the flags in force;
* `Inlay.Pattern.ofText?` — the pattern written in a text.
-/
import Inlay.Json.Reader
import Inlay.Pattern.Basic

set_option autoImplicit false

namespace Inlay.Pattern

/-- The flags in force at a place of a pattern. -/
structure Flags where
  /-- `i`: case does not matter. -/
  caseless : Bool := false
  /-- `m`: line assertions look at lines and not only at the text. -/
  multiLine : Bool := false
  /-- `s`: the dot matches a newline too. -/
  dotAll : Bool := false
  /-- `u`: sets are sets of Unicode characters. -/
  unicode : Bool := true
  /-- `x`: white space and comments in the pattern are ignored. -/
  verbose : Bool := false
  /-- `R`: a carriage return ends lines too. -/
  carriageReturn : Bool := false

namespace Reader

/-- The word characters under the flags. -/
def wordSet (flags : Flags) : CharSet :=
  if flags.unicode then .word else CharSet.asciiWord

/-- A set closed under change of case if the flags say so. -/
def fold (flags : Flags) (set : CharSet) : CharSet :=
  if flags.caseless then .anyCase set else set

/-- The complement of a set, which exists only among Unicode characters. -/
def complement (flags : Flags) (set : CharSet) : Option CharSet :=
  if flags.unicode then some (.not set) else none

/-- The text after white space and comments, if the flags allow them. -/
def skipVerbose (flags : Flags) (cs : List Char) : List Char :=
  if flags.verbose then go cs false else cs
where
  /-- Drops white space, and all of a line after a number sign. -/
  go : List Char → Bool → List Char
    | [], _ => []
    | '\n' :: cs, true => go cs false
    | _ :: cs, true => go cs true
    | '#' :: cs, false => go cs true
    | c :: cs, false => if Unicode.isSpace c then go cs false else c :: cs

/-! ### Escapes -/

/-- What an escape stands for. -/
inductive Escape where
  | literal (c : Char)
  | set (set : CharSet)
  | assertion (assertion : Assertion)

/-- The character with the given code, if there is one. -/
def scalar (n : Nat) : Option Char :=
  if n < 0xD800 || (0xE000 ≤ n && n ≤ 0x10FFFF) then some (Char.ofNat n) else none

/-- The number written by hexadecimal digits. -/
def hexNumber (ds : List Char) : Option Nat :=
  ds.foldlM (fun n d => (Json.Reader.hexValue d).map (n * 16 + ·)) 0

/-- A character by its code: in braces, or by `width` digits. -/
def hexEscape (width : Nat) (cs : List Char) : Option (Escape × List Char) :=
  match cs with
  | '{' :: cs =>
    let ds := cs.takeWhile (· != '}')
    match cs.dropWhile (· != '}') with
    | '}' :: rest =>
      if ds.isEmpty then none
      else ((hexNumber ds).bind scalar).map fun c => (.literal c, rest)
    | _ => none
  | cs =>
    let ds := cs.take width
    if ds.length = width then
      ((hexNumber ds).bind scalar).map fun c => (.literal c, cs.drop width)
    else none

/-- The text before and after the first occurrence of a separator. -/
def cutAt (separator : List Char) : List Char → Option (List Char × List Char)
  | [] => none
  | c :: cs =>
    if separator.isPrefixOf (c :: cs) then some ([], (c :: cs).drop separator.length)
    else (cutAt separator cs).map fun (front, back) => (c :: front, back)

/-- The set of a property written in braces. -/
def bracedProperty (name : List Char) : Option CharSet :=
  match cutAt ['!', '='] name with
  | some (name, value) => (CharSet.ofPropertyValue name value).map .not
  | none =>
    match cutAt [':'] name with
    | some (name, value) => CharSet.ofPropertyValue name value
    | none =>
      match cutAt ['='] name with
      | some (name, value) => CharSet.ofPropertyValue name value
      | none => CharSet.ofProperty name

/-- A property after its letter, and the text after it. -/
def property (cs : List Char) : Option (CharSet × List Char) :=
  match cs with
  | [] => none
  | '\\' :: _ => none
  | '{' :: cs =>
    match cs.dropWhile (· != '}') with
    | '}' :: rest => (bracedProperty (cs.takeWhile (· != '}'))).map fun set => (set, rest)
    | _ => none
  | c :: rest => (CharSet.ofProperty [c]).map fun set => (set, rest)

/-- A set letter: lower case for the set, upper case for its complement. -/
def setLetter (flags : Flags) (c : Char) : Option (Option CharSet) :=
  match c with
  | 'd' => some (some (if flags.unicode then .decimal else CharSet.between '0' '9'))
  | 's' => some (some (if flags.unicode then .space else CharSet.asciiSpace))
  | 'w' => some (some (wordSet flags))
  | 'D' => some (if flags.unicode then some (.not .decimal) else none)
  | 'S' => some (if flags.unicode then some (.not .space) else none)
  | 'W' => some (if flags.unicode then some (.not .word) else none)
  | _ => none

/-- The word boundary named in braces, and the text after it.  Braces that hold anything but letters
and hyphens are not part of the boundary. -/
def namedBoundary (flags : Flags) (cs : List Char) : Option (Escape × List Char) :=
  let set := wordSet flags
  let plain : Option (Escape × List Char) := some (.assertion (.wordBoundary set), cs)
  match cs with
  | '{' :: tail =>
    let name := tail.takeWhile fun c => c.isAlpha || c == '-'
    match tail.drop name.length with
    | '}' :: rest =>
      if name.isEmpty then plain
      else
        match String.ofList name with
        | "start" => some (.assertion (.wordStart set), rest)
        | "end" => some (.assertion (.wordEnd set), rest)
        | "start-half" => some (.assertion (.wordStartHalf set), rest)
        | "end-half" => some (.assertion (.wordEndHalf set), rest)
        | _ => none
    | _ => plain
  | _ => plain

/-- An escape after its backslash, and the text after it. -/
def escape (flags : Flags) (cs : List Char) : Option (Escape × List Char) :=
  match cs with
  | [] => none
  | 'x' :: cs => hexEscape 2 cs
  | 'u' :: cs => hexEscape 4 cs
  | 'U' :: cs => hexEscape 8 cs
  | 'p' :: cs =>
    if flags.unicode then (property cs).map fun (set, rest) => (.set (fold flags set), rest)
    else none
  | 'P' :: cs =>
    if flags.unicode then (property cs).map fun (set, rest) => (.set (.not (fold flags set)), rest)
    else none
  | 'a' :: cs => some (.literal '\x07', cs)
  | 'f' :: cs => some (.literal '\x0c', cs)
  | 't' :: cs => some (.literal '\t', cs)
  | 'n' :: cs => some (.literal '\n', cs)
  | 'r' :: cs => some (.literal '\r', cs)
  | 'v' :: cs => some (.literal '\x0b', cs)
  | 'A' :: cs => some (.assertion .textStart, cs)
  | 'z' :: cs => some (.assertion .textEnd, cs)
  | 'b' :: cs => namedBoundary flags cs
  | 'B' :: cs =>
    if flags.unicode then some (.assertion (.notWordBoundary (wordSet flags)), cs) else none
  | '<' :: cs => some (.assertion (.wordStart (wordSet flags)), cs)
  | '>' :: cs => some (.assertion (.wordEnd (wordSet flags)), cs)
  | c :: cs =>
    match setLetter flags c with
    | some (some set) => some (.set set, cs)
    | some none => none
    | none => if c.toNat < 128 && !c.isAlphanum then some (.literal c, cs) else none

/-! ### Bracketed sets -/

/-- How the operand that follows is combined with what stands before it. -/
inductive SetOperator where
  | and
  | diff
  | xor

/-- The set before an operator, and the operator. -/
abbrev Pending := Option (CharSet × SetOperator)

/-- The set before the operator combined with the one after it. -/
def combine (pending : Pending) (operand : CharSet) : CharSet :=
  match pending with
  | none => operand
  | some (left, .and) => .and left operand
  | some (left, .diff) => CharSet.diff left operand
  | some (left, .xor) => CharSet.xor left operand

/-- One item of a set, and the text after it: a character, or a set given by an escape. -/
def setItem (flags : Flags) : List Char → Option ((Char ⊕ CharSet) × List Char)
  | [] => none
  | '\\' :: cs =>
    match escape flags cs with
    | some (.literal c, rest) => some (.inl c, rest)
    | some (.set set, rest) => some (.inr set, rest)
    | _ => none
  | c :: rest => some (.inl c, rest)

/-- One item or range of a set, and the text after it. -/
def setRange (flags : Flags) (cs : List Char) : Option (CharSet × List Char) :=
  match setItem flags cs with
  | none => none
  | some (item, rest) =>
    let rest := skipVerbose flags rest
    let alone : Option (CharSet × List Char) :=
      match item with
      | .inl c => some (fold flags (CharSet.single c), rest)
      | .inr set => some (set, rest)
    match rest with
    | '-' :: tail =>
      match skipVerbose flags tail with
      | [] => none
      | ']' :: _ => alone
      | '-' :: _ => alone
      | tail =>
        match item, setItem flags tail with
        | .inl first, some (.inl last, rest) =>
          if first ≤ last then some (fold flags (CharSet.between first last), rest) else none
        | _, _ => none
    | _ => alone

/-- A class name between brackets and colons, and the text after it. -/
def asciiClass (flags : Flags) : List Char → Option (CharSet × List Char)
  | '[' :: ':' :: cs =>
    let (negated, cs) : Bool × List Char :=
      match cs with
      | '^' :: rest => (true, rest)
      | rest => (false, rest)
    let name := cs.takeWhile (· != ':')
    match cs.drop name.length with
    | ':' :: ']' :: rest =>
      (CharSet.ofAsciiClass (String.ofList name)).map fun set =>
        let set := fold flags set
        (if negated then .not set else set, rest)
    | _ => none
  | _ => none

/-- Leading hyphens, and a closing bracket at the very start, stand for themselves. -/
def leadingItems (flags : Flags) (cs : List Char) : List CharSet × List Char :=
  let hyphens := cs.takeWhile (· == '-')
  let rest := cs.drop hyphens.length
  match hyphens, rest with
  | [], ']' :: rest => ([CharSet.single ']'], rest)
  | hyphens, rest => (hyphens.map fun c => fold flags (CharSet.single c), rest)

mutual

/-- A set after its opening bracket, and the text after its closing one. -/
def bracket : Nat → Flags → List Char → Option (CharSet × List Char)
  | 0, _, _ => none
  | fuel + 1, flags, cs =>
    let cs := skipVerbose flags cs
    let (negated, cs) : Bool × List Char :=
      match cs with
      | '^' :: rest => (true, skipVerbose flags rest)
      | rest => (false, rest)
    let (items, cs) := leadingItems flags cs
    match setBody fuel flags none items cs with
    | none => none
    | some (set, rest) =>
      if negated then (complement flags set).map fun set => (set, rest) else some (set, rest)

/-- The items of a set up to its closing bracket; `items` were read before, since the operator that
is pending. -/
def setBody : Nat → Flags → Pending → List CharSet → List Char → Option (CharSet × List Char)
  | 0, _, _, _, _ => none
  | fuel + 1, flags, pending, items, cs =>
    let operator (kind : SetOperator) (rest : List Char) :=
      setBody fuel flags (some (combine pending (CharSet.union items.reverse), kind)) [] rest
    match skipVerbose flags cs with
    | [] => none
    | ']' :: rest => some (combine pending (CharSet.union items.reverse), rest)
    | '&' :: '&' :: rest => operator .and rest
    | '-' :: '-' :: rest => operator .diff rest
    | '~' :: '~' :: rest => operator .xor rest
    | '[' :: rest =>
      match asciiClass flags ('[' :: rest) with
      | some (set, rest) => setBody fuel flags pending (set :: items) rest
      | none =>
        match bracket fuel flags rest with
        | some (set, rest) => setBody fuel flags pending (set :: items) rest
        | none => none
    | cs =>
      match setRange flags cs with
      | some (set, rest) => setBody fuel flags pending (set :: items) rest
      | none => none

end

/-! ### Repetition -/

/-- A decimal number with white space around it, and the text after it. -/
def decimal (cs : List Char) : Option (Nat × List Char) :=
  let cs := cs.dropWhile Unicode.isSpace
  match Json.Reader.digits cs with
  | ([], _) => none
  | (ds, rest) =>
    let n := Json.Reader.natOf ds
    if n < 0x100000000 then some (n, rest.dropWhile Unicode.isSpace) else none

/-- The bounds of a counted repetition after its opening brace, and the text after it. -/
def counts (flags : Flags) (cs : List Char) : Option (Nat × Option Nat × List Char) :=
  match decimal (skipVerbose flags cs) with
  | none => none
  | some (least, rest) =>
    match rest with
    | '}' :: rest => some (least, some least, rest)
    | ',' :: rest =>
      match skipVerbose flags rest with
      | '}' :: rest => some (least, none, rest)
      | rest =>
        match decimal rest with
        | some (most, '}' :: rest) => if least ≤ most then some (least, some most, rest) else none
        | _ => none
    | _ => none

/-- The text after a mark that makes a repetition lazy; where a match exists does not depend on
it. -/
def skipLazy (flags : Flags) (cs : List Char) : List Char :=
  match skipVerbose flags cs with
  | '?' :: rest => rest
  | _ => cs

/-- An operand with all repetition operators after it, and the text after them. -/
def repeated : Nat → Flags → Pattern → List Char → Option (Pattern × List Char)
  | 0, _, _, _ => none
  | fuel + 1, flags, body, cs =>
    match skipVerbose flags cs with
    | '*' :: rest => repeated fuel flags (.times body 0 none) (skipLazy flags rest)
    | '+' :: rest => repeated fuel flags (.times body 1 none) (skipLazy flags rest)
    | '?' :: rest => repeated fuel flags (.times body 0 (some 1)) (skipLazy flags rest)
    | '{' :: rest =>
      match counts flags rest with
      | some (least, most, rest) =>
        repeated fuel flags (.times body least most) (skipLazy flags rest)
      | none => none
    | rest => some (body, rest)

/-! ### Groups -/

/-- A flag switched on or off. -/
def setFlag (flags : Flags) (c : Char) (value : Bool) : Option Flags :=
  match c with
  | 'i' => some { flags with caseless := value }
  | 'm' => some { flags with multiLine := value }
  | 's' => some { flags with dotAll := value }
  | 'u' => some { flags with unicode := value }
  | 'x' => some { flags with verbose := value }
  | 'R' => some { flags with carriageReturn := value }
  | 'U' => some flags
  | _ => none

/-- Flag letters up to a colon or closing parenthesis: the flags, whether any letter was there, and
the text from there on.  No letter and no sign may come twice, and a sign needs a letter. -/
def flagLetters (flags : Flags) (seen : List Char) (negative signed : Bool) :
    List Char → Option (Flags × Bool × List Char)
  | [] => none
  | '-' :: rest => if negative then none else flagLetters flags seen true true rest
  | c :: rest =>
    if c == ':' || c == ')' then
      if signed then none else some (flags, !seen.isEmpty, c :: rest)
    else if seen.contains c then none
    else
      match setFlag flags c (!negative) with
      | some flags => flagLetters flags (c :: seen) negative false rest
      | none => none

/-- Whether a character may stand in the name of a group, at its start or later. -/
def isNameChar (first : Bool) (c : Char) : Bool :=
  c == '_' || (if c.toNat < 128 then c.isAlpha || (!first && c.isDigit)
    else if first then Unicode.Category.letters.any (·.holds c.toNat)
    else Unicode.isWord c)
    || (!first && (c == '.' || c == '[' || c == ']'))

/-- The name of a group up to its closing angle, and the text after that. -/
def groupName (cs : List Char) : Option (List Char × List Char) :=
  let name := cs.takeWhile (· != '>')
  match name, cs.drop name.length with
  | c :: tail, '>' :: rest =>
    if isNameChar true c && tail.all (isNameChar false) then some (c :: tail, rest) else none
  | _, _ => none

/-- What an opening parenthesis starts. -/
inductive Opening where
  /-- A group read under the given flags. -/
  | group (flags : Flags) (name : Option (List Char)) (rest : List Char)
  /-- New flags for the rest of the enclosing group. -/
  | change (flags : Flags) (rest : List Char)

/-- What follows an opening parenthesis. -/
def opening (flags : Flags) (cs : List Char) : Option Opening :=
  match cs with
  | '?' :: '=' :: _ | '?' :: '!' :: _ | '?' :: '<' :: '=' :: _ | '?' :: '<' :: '!' :: _ => none
  | '?' :: 'P' :: '<' :: rest | '?' :: '<' :: rest =>
    (groupName rest).map fun (name, rest) => .group flags (some name) rest
  | '?' :: rest =>
    match flagLetters flags [] false false rest with
    | some (changed, _, ':' :: rest) => some (.group changed none rest)
    | some (changed, true, ')' :: rest) => some (.change changed rest)
    | _ => none
  | rest => some (.group flags none rest)

/-! ### Expressions -/

/-- The dot. -/
def dot (flags : Flags) : Option CharSet :=
  if !flags.unicode then none
  else if flags.dotAll then some .all
  else if flags.carriageReturn then some (.not (CharSet.union [.single '\n', .single '\r']))
  else some (.not (.single '\n'))

/-- A single character, circumflex, dollar sign, dot, escape or set, and the text after it. -/
def simple (fuel : Nat) (flags : Flags) (c : Char) (rest : List Char) :
    Option (Pattern × List Char) :=
  match c with
  | '^' =>
    let start := if flags.multiLine then Assertion.lineStart flags.carriageReturn else .textStart
    some (.place start, rest)
  | '$' =>
    let stop := if flags.multiLine then Assertion.lineEnd flags.carriageReturn else .textEnd
    some (.place stop, rest)
  | '.' => (dot flags).map fun set => (.oneOf set, rest)
  | '[' => (bracket fuel flags rest).map fun (set, rest) => (.oneOf set, rest)
  | '\\' =>
    match escape flags rest with
    | some (.literal c, rest) => some (.oneOf (fold flags (.single c)), rest)
    | some (.set set, rest) => some (.oneOf set, rest)
    | some (.assertion assertion, rest) => some (.place assertion, rest)
    | none => none
  | '*' | '+' | '?' | '{' => none
  | c => some (.oneOf (fold flags (.single c)), rest)

/-- The state of reading: the flags, the group names seen and the text that is left. -/
structure State where
  flags : Flags
  names : List (List Char)
  rest : List Char

mutual

/-- Alternatives up to a closing parenthesis or the end of the text. -/
def alternatives : Nat → State → Option (Pattern × State)
  | 0, _ => none
  | fuel + 1, state =>
    match sequence fuel .empty state with
    | none => none
    | some (first, state) =>
      match state.rest with
      | '|' :: rest =>
        (alternatives fuel { state with rest }).map fun (second, state) => (.alt first second, state)
      | _ => some (first, state)

/-- Operands in a row, after those already read into `front`. -/
def sequence : Nat → Pattern → State → Option (Pattern × State)
  | 0, _, _ => none
  | fuel + 1, front, state =>
    match skipVerbose state.flags state.rest with
    | [] => some (front, { state with rest := [] })
    | '|' :: rest => some (front, { state with rest := '|' :: rest })
    | ')' :: rest => some (front, { state with rest := ')' :: rest })
    | '(' :: rest =>
      match opening state.flags (skipVerbose state.flags rest) with
      | none => none
      | some (.change flags rest) =>
        match skipVerbose flags rest with
        | '*' :: _ | '+' :: _ | '?' :: _ | '{' :: _ => none
        | rest => sequence fuel front { state with flags, rest }
      | some (.group flags name rest) =>
        if name.any state.names.contains then none
        else
          match alternatives fuel { flags, names := name.toList ++ state.names, rest } with
          | some (body, { names, rest := ')' :: rest, .. }) =>
            match repeated (rest.length + 1) state.flags body rest with
            | some (body, rest) =>
              sequence fuel (.seq front body) { flags := state.flags, names, rest }
            | none => none
          | _ => none
    | c :: rest =>
      match simple fuel state.flags c rest with
      | none => none
      | some (operand, rest) =>
        match repeated (rest.length + 1) state.flags operand rest with
        | some (operand, rest) => sequence fuel (.seq front operand) { state with rest }
        | none => none

end

end Reader

/-- The pattern written in a text. -/
def ofText? (text : String) : Option Pattern :=
  let cs := text.toList
  match Reader.alternatives (2 * cs.length + 2) { flags := {}, names := [], rest := cs } with
  | some (pattern, state) => if state.rest.isEmpty then some pattern else none
  | none => none

end Inlay.Pattern
