/-
**Compiled documents.**

Every snippet is compiled, its map normalised, and its block replaced by one that holds the compiled
code.  A snippet that does not compile stays as it is.

Main definitions:

* `Inlay.Normalizer.settle` — what becomes of a snippet, given the compiler's answer;
* `Inlay.Block` — the record of a block;
* `Inlay.Document`, `Inlay.Normalizer.document` — the document, given the answers to its snippets;
* `Inlay.Normalizer.documentBy` — the document, asking a compiler.
-/
import Inlay.Compiler
import Inlay.Normalization
import Inlay.Snippet

set_option autoImplicit false

namespace Inlay

/-- What a compiler answers. -/
abbrev Answer := Except CompileError Compiled

/-- A snippet after compilation and normalisation. -/
structure SnippetResult where
  /-- The compiled code, or the snippet if it did not compile. -/
  code : String
  /-- The position map, if the compiler reported a map. -/
  map : Option PositionMap := none
  /-- The compiler's own map. -/
  native : Option NativeMap := none
  /-- Whether the snippet compiled. -/
  compiled : Bool
  deriving DecidableEq, Repr

namespace Normalizer

/-- What becomes of a snippet, given the compiler's answer, with all reports.  This never fails: a
snippet that does not compile passes through, and code without a map is taken without one. -/
def settle (normalizer : Normalizer) (answer : Answer) (snippet : String) (host : Host)
    (placement : Placement) : SnippetResult × List Diagnostic :=
  match answer with
  | .error error =>
    ({ code := snippet, compiled := false },
      [(Diagnostic.of .compilerUnavailable error.message).onHostLine placement.startLine])
  | .ok { code, map := none } =>
    ({ code, compiled := true },
      [(Diagnostic.of .missingNativeMap ("no map for snippet in " ++ host.path)).onHostLine
        placement.startLine])
  | .ok { code, map := some native } =>
    let (map, reports) := normalizer.normalize code native host placement
    ({ code, map := some map, native := some native, compiled := true }, reports)

end Normalizer

/-- The record of a block. -/
structure Block where
  /-- The position map; a block without one passed through or has no map. -/
  map : Option PositionMap
  /-- The byte at which the block's code starts in the compiled document. -/
  start : Nat
  /-- The byte after the block's code. -/
  stop : Nat
  /-- The host line of the snippet, counted from one. -/
  hostLine : Nat
  hostLineCount : Nat
  codeLineCount : Nat
  /-- The compiler's own segments. -/
  rawLines : Option (List (List (List Int)))
  deriving DecidableEq, Repr

/-- A host document with its snippets compiled. -/
structure Document where
  code : String
  /-- The first module block. -/
  moduleBlock : Option Block := none
  /-- The first other block. -/
  instanceBlock : Option Block := none
  deriving DecidableEq, Repr

namespace Block

/-- The record as JSON. -/
def json (block : Block) : Json :=
  .obj <|
    [("map", match block.map with
      | some map => map.json
      | none => .null),
      ("tsStart", .int block.start), ("tsEnd", .int block.stop),
      ("originalContentStartLine", .int block.hostLine),
      ("originalLineCount", .int block.hostLineCount),
      ("compiledLineCount", .int block.codeLineCount)]
    ++ (block.rawLines.map fun lines =>
      ("rawMapLines",
        Json.arr (lines.map fun line => .arr (line.map fun fields => .arr (fields.map .int))))).toList

end Block

/-- The document as JSON; blocks that are not there are left out. -/
def Document.json (document : Document) : Json :=
  .obj <|
    [("code", .str document.code)]
    ++ (document.moduleBlock.map fun block => ("module", block.json)).toList
    ++ (document.instanceBlock.map fun block => ("instance", block.json)).toList

/-! ### Splicing -/

/-- The text of a compiled block before its code. -/
def openingFor (attributes language : String) : String :=
  "<script" ++ String.ofList (Markup.replaceLang attributes.toList language.toList) ++ ">\n"

/-- The text of a compiled block after its code. -/
def closingFor (code : String) : String :=
  (if code.toList.getLast? == some '\n' then "" else "\n") ++ "</script>"

/-- The text that replaces a block, and the bytes before and of its code. -/
def replacement (language : String) (snippet : Snippet) (block : String) (result : SnippetResult) :
    String × Nat × Nat :=
  if result.compiled then
    let opening := openingFor snippet.attributes language
    (opening ++ result.code ++ closingFor result.code, opening.utf8ByteSize,
      result.code.utf8ByteSize)
  else
    (block, snippet.content.start - snippet.block.start,
      snippet.content.stop - snippet.content.start)

/-- The bytes of a text from `start` up to `stop`. -/
def bytesOf (text : String) (start stop : Nat) : String :=
  String.ofList ((Text.sliceBytes start stop text.toList).getD [])

/-- A document so far: its code, the place in the host up to which it goes, and its blocks. -/
structure Splice where
  code : String := ""
  cursor : Nat := 0
  moduleBlock : Option Block := none
  instanceBlock : Option Block := none

namespace Splice

/-- Notes a block, unless one of its kind is there already. -/
def note (splice : Splice) (kind : ScriptKind) (block : Block) : Splice :=
  match kind with
  | .moduleScript => { splice with moduleBlock := splice.moduleBlock.or (some block) }
  | .instanceScript => { splice with instanceBlock := splice.instanceBlock.or (some block) }

/-- Adds the text up to a snippet and what replaces its block. -/
def add (splice : Splice) (text language : String) (snippet : Snippet) (result : SnippetResult) :
    Splice :=
  let front := splice.code ++ bytesOf text splice.cursor snippet.block.start
  let written := bytesOf text snippet.block.start snippet.block.stop
  let (body, before, length) := replacement language snippet written result
  let start := front.utf8ByteSize + before
  { splice with code := front ++ body, cursor := snippet.block.stop }.note snippet.kind
    { map := result.map
      start
      stop := start + length
      hostLine := snippet.placement.startLine + 1
      hostLineCount := snippet.lineCount
      codeLineCount := (Text.lines result.code.toList).length
      rawLines := result.native.map NativeMap.rawLines }

/-- The document with the text after the last block. -/
def finish (splice : Splice) (text : String) : Document where
  code := splice.code ++ bytesOf text splice.cursor text.utf8ByteSize
  moduleBlock := splice.moduleBlock
  instanceBlock := splice.instanceBlock

end Splice

namespace Normalizer

/-- Adds snippets and what the compiler answered to them, with all reports. -/
def spliceAll (normalizer : Normalizer) (host : Host) :
    Splice → List (Snippet × Answer) → Splice × List Diagnostic
  | splice, [] => (splice, [])
  | splice, (snippet, answer) :: rest =>
    let (result, reports) := normalizer.settle answer snippet.code host snippet.placement
    let next := splice.add host.text normalizer.rules.outputLang snippet result
    let (last, more) := normalizer.spliceAll host next rest
    (last, reports ++ more)

/-- The snippets of a document. -/
def snippets (normalizer : Normalizer) (host : Host) : List Snippet :=
  Snippet.ofText host.text normalizer.rules.scriptLang

/-- The document with its snippets replaced, given the compiler's answers to them in order, with all
reports. -/
def document (normalizer : Normalizer) (host : Host) (answers : List Answer) :
    Document × List Diagnostic :=
  let (splice, reports) := normalizer.spliceAll host {} ((normalizer.snippets host).zip answers)
  (splice.finish host.text, reports)

/-- The document with its snippets replaced, asking a compiler for the code of each snippet of the
file. -/
def documentBy (normalizer : Normalizer) (compile : String → String → Answer) (host : Host) :
    Document × List Diagnostic :=
  normalizer.document host
    ((normalizer.snippets host).map fun snippet => compile snippet.code host.path)

end Normalizer

end Inlay
