/-
**Script blocks.**

A script block is an opening tag, whatever stands up to the next closing tag, and that tag.  Blocks
are taken from left to right and never overlap.

Main definitions:

* `Inlay.Markup.ScriptBlock` — a block in its parts;
* `Inlay.Markup.blockAt` — the block at the start of a text;
* `Inlay.Markup.splitBlocks` — all blocks of a text, each with the text before it, and the text after
  the last;
* `Inlay.Markup.LangAttribute`, `Inlay.Markup.findLang` — the first language attribute of a tag.
-/
import Inlay.Text.Words

set_option autoImplicit false

namespace Inlay.Markup

/-- A script block in its parts. -/
structure ScriptBlock where
  /-- What stands in the opening tag after its name. -/
  attributes : List Char
  /-- What stands between the tags. -/
  content : List Char
  /-- White space in the closing tag. -/
  closingSpace : List Char
  deriving DecidableEq, Repr

namespace ScriptBlock

/-- The opening tag up to its attributes. -/
def opening : List Char :=
  "<script".toList

/-- The closing tag up to its white space. -/
def closing : List Char :=
  "</script".toList

/-- The opening tag. -/
def openTag (block : ScriptBlock) : List Char :=
  opening ++ block.attributes ++ ['>']

/-- The whole block as written. -/
def text (block : ScriptBlock) : List Char :=
  block.openTag ++ block.content ++ closing ++ block.closingSpace ++ ['>']

end ScriptBlock

/-! ### Tags -/

/-- The white space of the closing tag at the start of a text, and the text after the tag. -/
def closeTagAt (cs : List Char) : Option (List Char × List Char) :=
  match Text.dropFront ScriptBlock.closing cs with
  | none => none
  | some rest =>
    match rest.dropWhile Unicode.isSpace with
    | '>' :: after => some (rest.takeWhile Unicode.isSpace, after)
    | _ => none

/-- What stands before the first closing tag, the white space of that tag, and the text after it. -/
def untilClose : List Char → Option (List Char × List Char × List Char)
  | [] => none
  | c :: cs =>
    match closeTagAt (c :: cs) with
    | some (space, after) => some ([], space, after)
    | none => (untilClose cs).map fun (content, space, after) => (c :: content, space, after)

/-- The block at the start of a text, and the text after it. -/
def blockAt (cs : List Char) : Option (ScriptBlock × List Char) :=
  match Text.dropFront ScriptBlock.opening cs with
  | none => none
  | some rest =>
    if rest.head?.any Unicode.isWord then none
    else
      match rest.dropWhile (· != '>') with
      | '>' :: body =>
        (untilClose body).map fun (content, closingSpace, after) =>
          ({ attributes := rest.takeWhile (· != '>'), content, closingSpace }, after)
      | _ => none

/-- The text before the first block, the block, and the text after it. -/
def firstBlock : List Char → Option (List Char × ScriptBlock × List Char)
  | [] => none
  | c :: cs =>
    match blockAt (c :: cs) with
    | some (block, after) => some ([], block, after)
    | none => (firstBlock cs).map fun (before, block, after) => (c :: before, block, after)

/-- At most `count` blocks of a text, each with the text before it, and the text after the last. -/
def splitBlocksUpTo : Nat → List Char → List (List Char × ScriptBlock) × List Char
  | 0, cs => ([], cs)
  | count + 1, cs =>
    match firstBlock cs with
    | none => ([], cs)
    | some (before, block, after) =>
      let (blocks, tail) := splitBlocksUpTo count after
      ((before, block) :: blocks, tail)

/-- All blocks of a text, each with the text before it, and the text after the last. -/
def splitBlocks (cs : List Char) : List (List Char × ScriptBlock) × List Char :=
  splitBlocksUpTo cs.length cs

/-! ### Attributes -/

/-- A text after white space. -/
def skipSpace (cs : List Char) : List Char :=
  cs.dropWhile Unicode.isSpace

/-- The text after a name and an equals sign with white space around it. -/
def afterEquals (name : List Char) (cs : List Char) : Option (List Char) :=
  match Text.dropFront name cs with
  | none => none
  | some rest =>
    match skipSpace rest with
    | '=' :: value => some (skipSpace value)
    | _ => none

/-- Either kind of quote. -/
def isQuote (c : Char) : Bool :=
  c == '"' || c == '\''

/-- A language attribute: what stands before its value, the value, and what stands after. -/
structure LangAttribute where
  before : List Char
  value : List Char
  after : List Char
  deriving DecidableEq, Repr

/-- The value of the language attribute at the start of a text. -/
def langAt (cs : List Char) : Option LangAttribute :=
  match afterEquals "lang".toList cs with
  | some (q :: rest) =>
    let after := rest.dropWhile fun c => !isQuote c
    if isQuote q && !after.isEmpty then
      some { before := cs.take (cs.length - rest.length)
             value := rest.takeWhile fun c => !isQuote c
             after }
    else none
  | _ => none

/-- The first language attribute of a text; `previous` is the character before it. -/
def findLangFrom : Option Char → List Char → Option LangAttribute
  | _, [] => none
  | previous, c :: cs =>
    let here := if previous.any Unicode.isWord then none else langAt (c :: cs)
    match here with
    | some found => some found
    | none =>
      (findLangFrom (some c) cs).map fun found => { found with before := c :: found.before }

/-- The first language attribute of the attributes of a tag. -/
def findLang (attributes : List Char) : Option LangAttribute :=
  findLangFrom none attributes

/-- The attributes of a tag with the value of the first language attribute replaced. -/
def replaceLang (attributes language : List Char) : List Char :=
  match findLang attributes with
  | some found => found.before ++ language ++ found.after
  | none => attributes

/-- Whether a text starts with an attribute that marks a module. -/
def moduleAt (cs : List Char) : Bool :=
  match afterEquals "context".toList cs with
  | some (q :: rest) =>
    isQuote q && ((Text.dropFront "module".toList rest).bind List.head?).any isQuote
  | _ => false

/-- Whether the attributes of a tag mark a module; `previous` is the character before them. -/
def marksModuleFrom : Option Char → List Char → Bool
  | _, [] => false
  | previous, c :: cs =>
    (!previous.any Unicode.isWord && moduleAt (c :: cs)) || marksModuleFrom (some c) cs

/-- Whether the attributes of a tag mark a module. -/
def marksModule (attributes : List Char) : Bool :=
  marksModuleFrom none attributes

end Inlay.Markup
