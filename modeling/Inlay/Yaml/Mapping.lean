/-
**YAML documents that are flat mappings.**

A settings text is one document: either nothing, or one mapping from scalars to scalars in block or
flow style.  Sequences, nested mappings, and a second document are refused.

Main definitions:

* `Inlay.Yaml.Entry` — a key and its value;
* `Inlay.Yaml.entries?` — the entries of a text.
-/
import Inlay.Yaml.Scalar

set_option autoImplicit false

namespace Inlay.Yaml

/-- A key and its value. -/
structure Entry where
  key : String
  value : Scalar
  deriving DecidableEq, Repr

/-- The scalars that bear a name so far. -/
abbrev Anchors := List (String × Scalar)

/-- The scalar that stands for a missing value. -/
def Scalar.absent : Scalar :=
  { text := "", plain := true }

/-! ### Gaps -/

/-- Skips blanks, comments and line breaks.  In block style a tab does not indent a line. -/
def skipGapFrom (flow inComment : Bool) : List Char → Nat → Bool → Place
  | [], column, fresh => { rest := [], column, fresh }
  | c :: rest, column, fresh =>
    if c == '\n' then skipGapFrom flow false rest 0 true
    else if inComment then skipGapFrom flow true rest (column + 1) fresh
    else if c == '#' then skipGapFrom flow true rest (column + 1) fresh
    else if c == ' ' || (c == '\t' && (flow || !fresh)) then
      skipGapFrom flow false rest (column + 1) fresh
    else { rest := c :: rest, column, fresh }

/-- The place of the next token. -/
def skipGap (flow : Bool) (place : Place) : Place :=
  skipGapFrom flow false place.rest place.column place.fresh

/-- Whether no line break stands between two places. -/
def sameLine (start stop : Place) : Bool :=
  !(start.rest.take (start.rest.length - stop.rest.length)).contains '\n'

/-! ### Values -/

/-- The characters of the name of an anchor. -/
def isAnchorChar (c : Char) : Bool :=
  c.isAlphanum || c == '_' || c == '-'

/-- An anchor's name after its sign, and the place after it. -/
def anchorName (place : Place) : Option (String × Place) :=
  let name := (place.rest.drop 1).takeWhile isAnchorChar
  let after := place.advance (name.length + 1)
  let ended := blankNext after.rest ||
    match after.rest with
    | c :: _ => [',', ']', '}', '?', ':', '%', '@', '\x60'].contains c
    | [] => true
  if name.isEmpty || !ended then none else some (String.ofList name, after)

/-- Where a value stands: inside braces, or in a block mapping at a column. -/
inductive Setting where
  | flow
  | block (column : Nat)

namespace Setting

/-- Whether the value stands inside braces. -/
def isFlow : Setting → Bool
  | flow => true
  | block _ => false

/-- The least indentation of a value's further lines. -/
def indent : Setting → Nat
  | flow => 0
  | block column => column + 1

/-- Whether no value stands at the place of the next token. -/
def isAbsent (setting : Setting) (place : Place) : Bool :=
  match setting, place.rest with
  | _, [] => true
  | flow, c :: _ => c == ',' || c == '}'
  | block column, _ => place.fresh && (place.column ≤ column || atMarker place)

end Setting

/-- A scalar without its properties. -/
def scalar (setting : Setting) (place : Place) : Option (Scalar × Place) :=
  match setting, place.rest with
  | _, '\'' :: _ => singleQuoted place
  | _, '"' :: _ => doubleQuoted place
  | .block column, '|' :: rest => block true column rest
  | .block column, '>' :: rest => block false column rest
  | _, _ => plain setting.isFlow setting.indent place

/-- A value: an alias, or a scalar after its anchor and tag.  `name` is the anchor read so far. -/
def value (setting : Setting) : Nat → Option String → Anchors → Place →
    Option (Scalar × Anchors × Place)
  | 0, _, _, _ => none
  | fuel + 1, name, anchors, place =>
    let bind (scalar : Scalar) : Anchors :=
      match name with
      | some name => (name, scalar) :: anchors
      | none => anchors
    let here := skipGap setting.isFlow place
    if setting.isAbsent here then some (.absent, bind .absent, here)
    else if atMarker here then none
    else
      match here.rest with
      | '&' :: _ =>
        match name, anchorName here with
        | none, some (name, after) => value setting fuel (some name) anchors after
        | _, _ => none
      | '!' :: rest =>
        let tag := rest.takeWhile fun c =>
          !(isBlank c || c == '\n' || (setting.isFlow && flowIndicators.contains c))
        value setting fuel name anchors (here.advance (tag.length + 1))
      | '*' :: _ =>
        match name, anchorName here with
        | none, some (target, after) =>
          (anchors.lookup target).map fun scalar => (scalar, anchors, after)
        | _, _ => none
      | _ => (scalar setting here).map fun (scalar, after) => (scalar, bind scalar, after)

/-! ### Mappings -/

/-- A key, and the place after its colon; in flow style the colon may be missing. -/
def key (setting : Setting) (anchors : Anchors) (place : Place) :
    Option (String × Anchors × Option Place × Place) :=
  match place.rest with
  | '|' :: _ => none
  | '>' :: _ => none
  | _ =>
    match value setting (place.rest.length + 1) none anchors place with
    | none => none
    | some (scalar, anchors, after) =>
      let colon := skipGap setting.isFlow after
      match colon.rest with
      | ':' :: rest =>
        if sameLine place colon && (setting.isFlow || blankNext rest) then
          some (scalar.text, anchors, some (colon.advance 1), colon)
        else none
      | _ => if setting.isFlow then some (scalar.text, anchors, none, colon) else none

/-- An entry whose key stands after a question mark; its value, if any, stands on a line of its own after
a colon. -/
def markedEntry (column : Nat) (anchors : Anchors) (place : Place) :
    Option (Entry × Anchors × Place) :=
  let read (anchors : Anchors) (mark : Place) : Option (Scalar × Anchors × Place) :=
    value (.block column) (mark.rest.length + 1) none anchors { mark.advance 1 with fresh := false }
  match read anchors place with
  | none => none
  | some (key, anchors, after) =>
    let colon := skipGap false after
    let hasValue :=
      match colon.rest with
      | ':' :: rest => colon.fresh && colon.column == column && blankNext rest
      | _ => false
    if hasValue then
      (read anchors colon).map fun (scalar, anchors, after) =>
        ({ key := key.text, value := scalar }, anchors, after)
    else some ({ key := key.text, value := .absent }, anchors, after)

/-- Whether a key after a question mark starts here. -/
def atMarkedKey : List Char → Bool
  | '?' :: rest => blankNext rest
  | _ => false

/-- The entries of a block mapping at a column, and the place after it. -/
def blockEntries (column : Nat) : Nat → Anchors → Place → Option (List Entry × Place)
  | 0, _, _ => none
  | fuel + 1, anchors, place =>
    let here := skipGap false place
    if here.rest.isEmpty || atMarker here then some ([], here)
    else if !here.fresh || here.column != column || here.rest.head? == some '\t' then none
    else if atMarkedKey here.rest then
      match markedEntry column anchors here with
      | none => none
      | some (entry, anchors, after) =>
        (blockEntries column fuel anchors after).map fun (more, last) => (entry :: more, last)
    else
      match key (.block column) anchors { here with fresh := false } with
      | some (name, anchors, some after, _) =>
        match value (.block column) (after.rest.length + 1) none anchors after with
        | none => none
        | some (scalar, anchors, after) =>
          (blockEntries column fuel anchors after).map fun (more, last) =>
            ({ key := name, value := scalar } :: more, last)
      | _ => none

/-- The entries of a flow mapping after its opening brace, and the place after the closing one. -/
def flowEntries : Nat → Anchors → Place → Option (List Entry × Place)
  | 0, _, _ => none
  | fuel + 1, anchors, place =>
    let here := skipGap true place
    let next (entry : Entry) (anchors : Anchors) (after : Place) : Option (List Entry × Place) :=
      let stop := skipGap true after
      match stop.rest with
      | ',' :: _ =>
        (flowEntries fuel anchors (stop.advance 1)).map fun (more, last) => (entry :: more, last)
      | '}' :: _ => some ([entry], stop.advance 1)
      | _ => none
    match here.rest with
    | [] => none
    | '}' :: _ => some ([], here.advance 1)
    | ',' :: _ => none
    | _ =>
      if atMarker here then none
      else
        match key .flow anchors here with
        | none => none
        | some (name, anchors, none, after) => next { key := name, value := .absent } anchors after
        | some (name, anchors, some after, _) =>
          match value .flow (after.rest.length + 1) none anchors after with
          | none => none
          | some (scalar, anchors, after) => next { key := name, value := scalar } anchors after

/-! ### Documents -/

/-- Whether a document may hold the character. -/
def isAllowed (c : Char) : Bool :=
  let n := c.toNat
  n == 9 || n == 10 || n == 13 || (0x20 ≤ n && n ≤ 0x7E) || n == 0x85 || (0xA0 ≤ n && n ≤ 0xD7FF)
    || (0xE000 ≤ n && n ≤ 0xFFFD && n != 0xFEFF) || 0x10000 ≤ n

/-- The text with every line break as a newline. -/
def normalizeBreaks : List Char → List Char
  | [] => []
  | '\r' :: '\n' :: rest => '\n' :: normalizeBreaks rest
  | c :: rest => (if c == '\r' || c == '\u0085' then '\n' else c) :: normalizeBreaks rest

/-- Whether nothing follows a document but comments and end markers. -/
def isFinished : Nat → Place → Bool
  | 0, _ => false
  | fuel + 1, place =>
    let here := skipGap false place
    match here.rest with
    | [] => true
    | '.' :: _ => atMarker here && isFinished fuel (here.advance 3)
    | _ => false

/-- The entries of the one document that starts at a place; `started` tells that its marker stands
before. -/
def content (started : Bool) (place : Place) : Option (List Entry) :=
  let here := skipGap false place
  let fuel := here.rest.length + 1
  let result :=
    if here.rest.isEmpty then some ([], here)
    else if atMarker here then if started then some ([], here) else none
    else
      match here.rest with
      | '{' :: _ => flowEntries fuel [] (here.advance 1)
      | _ => blockEntries here.column fuel [] here
  match result with
  | some (entries, after) => if isFinished fuel after then some entries else none
  | none => none

/-- Whether a line gives a version that is understood. -/
def isVersionLine (line : List Char) : Bool :=
  let words := ((Text.split ' ' (line.takeWhile (· != '#'))).filter fun word => !word.isEmpty)
  words == ["%YAML".toList, "1.1".toList] || words == ["%YAML".toList, "1.2".toList]

/-- The entries of the document after its directives. -/
def document (cs : List Char) : Option (List Entry) :=
  let here := skipGap false { rest := cs, column := 0, fresh := true }
  let afterStart (place : Place) : Option (List Entry) :=
    match place.rest with
    | '-' :: '-' :: '-' :: _ => if atMarker place then content true (place.advance 3) else none
    | _ => none
  match here.rest with
  | '%' :: _ =>
    let line := here.rest.takeWhile (· != '\n')
    if here.column == 0 && isVersionLine line then
      afterStart (skipGap false (here.advance line.length))
    else none
  | _ =>
    match afterStart here with
    | some entries => some entries
    | none => if atMarker here then none else content false here

/-- The entries of a text. -/
def entries? (text : String) : Option (List Entry) :=
  let cs := match text.toList with
    | '\ufeff' :: rest => rest
    | cs => cs
  if cs.all isAllowed then document (normalizeBreaks cs) else none

end Inlay.Yaml
