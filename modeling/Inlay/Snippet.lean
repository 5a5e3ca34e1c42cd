/-
**Snippets.**

The script blocks of a host document in the language that is compiled.  A snippet is the text of such
a block without a line break at its start and without the indentation that its lines share.

Main definitions:

* `Inlay.dedent` — a text without its first line break and its common indentation;
* `Inlay.Snippet` — a snippet with its places in the host;
* `Inlay.Snippet.ofText` — all snippets of a text.
-/
import Inlay.Host
import Inlay.Markup.Script
import Inlay.Text.Split

set_option autoImplicit false

namespace Inlay

/-- Which script block of its document a snippet stands in. -/
inductive ScriptKind where
  | moduleScript
  | instanceScript
  deriving DecidableEq, Repr

/-- The kind as a word. -/
def ScriptKind.key : ScriptKind → String
  | moduleScript => "module"
  | instanceScript => "instance"

/-- A stretch of bytes. -/
structure ByteSpan where
  start : Nat
  stop : Nat
  deriving DecidableEq, Repr

/-- A snippet of a host document. -/
structure Snippet where
  kind : ScriptKind
  /-- The attributes of the opening tag. -/
  attributes : String
  /-- The whole block. -/
  block : ByteSpan
  /-- What stands between the tags. -/
  content : ByteSpan
  /-- The dedented text. -/
  code : String
  placement : Placement
  deriving DecidableEq, Repr

/-! ### Dedenting -/

/-- Blank or tab. -/
def isIndent (c : Char) : Bool :=
  c == ' ' || c == '\t'

/-- A text without the line break at its start. -/
def dropFirstBreak : List Char → List Char
  | '\r' :: '\n' :: rest => rest
  | '\n' :: rest => rest
  | cs => cs

/-- The indentation that all lines share that are not blank. -/
def commonIndent (content : List Char) : Nat :=
  let indents := ((Text.lines content).filter fun line => !line.all Unicode.isSpace).map fun line =>
    (line.takeWhile isIndent).length
  indents.min?.getD 0

/-- A line without at most `indent` blanks and tabs at its start. -/
def stripIndent (indent : Nat) (line : List Char) : List Char :=
  line.drop ((line.take indent).takeWhile isIndent).length

/-- A text without the line break at its start and without its common indentation. -/
def dedent (content : List Char) : List Char :=
  let body := dropFirstBreak content
  (Text.pieces body).flatMap (stripIndent (commonIndent body))

/-- Where the dedented content of a block sits; `offset` is the byte at which the content starts. -/
def placementOf (text : String) (offset : Nat) (content : List Char) : Placement :=
  let body := dropFirstBreak content
  let skipped := content.length - body.length
  let place := ((LineIndex.ofText text).locate (offset + skipped) text).getD default
  { startLine := place.row
    removedIndent := commonIndent body
    firstLineColumn := if skipped = 0 then place.column else 0 }

/-! ### Extraction -/

namespace Snippet

/-- The number of lines of the dedented text. -/
def lineCount (snippet : Snippet) : Nat :=
  (Text.lines snippet.code.toList).length

/-- The snippet of a block that starts at a byte of a text. -/
def ofBlock (text : String) (start : Nat) (block : Markup.ScriptBlock) : Snippet :=
  let contentStart := start + Text.utf8Length block.openTag
  { kind := if Markup.marksModule block.attributes then .moduleScript else .instanceScript
    attributes := String.ofList block.attributes
    block := { start, stop := start + Text.utf8Length block.text }
    content := { start := contentStart
                 stop := contentStart + Text.utf8Length block.content }
    code := String.ofList (dedent block.content)
    placement := placementOf text contentStart block.content }

/-- Whether a block is in a given language. -/
def isIn (language : String) (block : Markup.ScriptBlock) : Bool :=
  (Markup.findLang block.attributes).any fun found => found.value == language.toList

/-- The snippets among blocks, the text before the first of which starts at a byte. -/
def ofBlocks (text language : String) : Nat → List (List Char × Markup.ScriptBlock) → List Snippet
  | _, [] => []
  | offset, (before, block) :: rest =>
    let start := offset + Text.utf8Length before
    let more := ofBlocks text language (start + Text.utf8Length block.text) rest
    if isIn language block then ofBlock text start block :: more else more

/-- All snippets of a text in a given language. -/
def ofText (text language : String) : List Snippet :=
  ofBlocks text language 0 (Markup.splitBlocks text.toList).1

end Snippet

end Inlay
