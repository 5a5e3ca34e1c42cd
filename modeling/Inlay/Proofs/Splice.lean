/-
**Compiled documents, part by part.**

`Inlay/Document.lean` builds a document from left to right, with a cursor in the host text, and notes where
the code of a block starts and ends while the document still grows.  This module says what comes out in terms
of the parts of the host: what stands between the blocks of snippets is kept, each block is replaced on its
own, and the places that were noted are those of the code in the finished document.

Main definitions:

* `Inlay.Part` — a snippet's part of a document, with what the compiler answered;
* `Inlay.Part.written`, `Inlay.Part.rewritten` — the part before and after;
* `Inlay.Part.firstSpan` — where the code of the first block of a kind comes to stand;
* `Inlay.Part.Covers` — parts that make up a text.

Main results:

* `Inlay.Part.exists_covers` — every text is made up of parts, one for each of its snippets;
* `Inlay.Splice.add_spec` — what adding a snippet does to a document;
* `Inlay.Normalizer.spliceAll_spec` — what adding all of them does;
* `Inlay.Normalizer.document_parts` — **a compiled document is its host with each block replaced**.
-/
import Inlay.Document
import Inlay.Proofs.Attributes
import Inlay.Proofs.Blocks
import Inlay.Proofs.Findings
import Inlay.Syntax.Program

set_option autoImplicit false

namespace Inlay

open Text Markup

/-! ### Bytes of texts -/

/-- The bytes between two places of a text. -/
theorem bytesOf_eq {text : String} {front middle back : List Char}
    (h : text.toList = front ++ (middle ++ back)) :
    bytesOf text (utf8Length front) (utf8Length (front ++ middle)) = String.ofList middle := by
  rw [bytesOf, h, utf8Length_append, sliceBytes_append, Option.getD_some]

/-! ### Blocks and snippets -/

namespace Snippet

theorem exists_lang_of_isIn {language : String} {block : ScriptBlock}
    (h : isIn language block = true) :
    ∃ found, findLang block.attributes = some found ∧ found.value = language.toList := by
  obtain ⟨found, hfound, hvalue⟩ := (Option.any_eq_true _ _).1 h
  exact ⟨found, hfound, beq_iff_eq.1 hvalue⟩

theorem length_ofBlocks (text language : String) (offset : Nat)
    (entries : List (List Char × ScriptBlock)) :
    (ofBlocks text language offset entries).length =
      (entries.filter fun entry => isIn language entry.2).length := by
  induction entries generalizing offset with
  | nil => rfl
  | cons entry entries ih =>
      obtain ⟨before, block⟩ := entry
      cases hin : isIn language block <;> simp [ofBlocks, hin, ih]

/-- Blocks in other languages hold no snippets. -/
theorem ofBlocks_skipped (text language : String) (front : List Char)
    {skipped : List (List Char × ScriptBlock)}
    (h : ∀ entry ∈ skipped, isIn language entry.2 = false)
    (more : List (List Char × ScriptBlock)) :
    ofBlocks text language (utf8Length front) (skipped ++ more) =
      ofBlocks text language (utf8Length (front ++ joined skipped)) more := by
  induction skipped generalizing front with
  | nil => simp [joined]
  | cons entry skipped ih =>
      obtain ⟨before, block⟩ := entry
      rw [List.forall_mem_cons] at h
      have hstop : utf8Length front + utf8Length before + utf8Length block.text =
          utf8Length (front ++ (before ++ block.text)) := by
        rw [utf8Length_append, utf8Length_append, Nat.add_assoc]
      rw [List.cons_append, ofBlocks, if_neg (by simp [h.1]), hstop, ih _ h.2, joined_cons]
      simp

end Snippet

/-! ### Parts of a document -/

/-- A snippet's part of a document: the blocks in other languages before its own, each with the text before
it, the text between them and its own block, that block, and what the compiler answered. -/
structure Part where
  skipped : List (List Char × ScriptBlock)
  before : List Char
  block : ScriptBlock
  answer : Answer

namespace Part

/-- What stands between the block of the snippet before and that of this one. -/
def gap (part : Part) : List Char :=
  joined part.skipped ++ part.before

/-- The part as written in the host. -/
def written (part : Part) : List Char :=
  part.gap ++ part.block.text

/-- The kind of the part's block. -/
def kind (part : Part) : ScriptKind :=
  if marksModule part.block.attributes then .moduleScript else .instanceScript

/-- What stands between the tags in the end: the compiled code, or what stood there before. -/
def code (part : Part) : List Char :=
  match part.answer with
  | .ok compiled => compiled.code.toList
  | .error _ => part.block.content

/-- The block in the end.  If the snippet did not compile it is as it was; else it holds the compiled code,
and its language attribute has another value. -/
def replaced (language : String) (part : Part) : List Char :=
  match part.answer with
  | .ok compiled =>
    "<script".toList ++ replaceLang part.block.attributes language.toList ++ ">\n".toList
      ++ compiled.code.toList ++ (if compiled.code.toList.getLast? = some '\n' then [] else ['\n'])
      ++ "</script>".toList
  | .error _ => part.block.text

/-- The part as it stands in the compiled document. -/
def rewritten (language : String) (part : Part) : List Char :=
  part.gap ++ part.replaced language

/-- What stands before the code in the block in the end. -/
def lead (language : String) (part : Part) : List Char :=
  match part.answer with
  | .ok _ => "<script".toList ++ replaceLang part.block.attributes language.toList ++ ">\n".toList
  | .error _ => part.block.openTag

/-- What stands after the code in the block in the end. -/
def trail (part : Part) : List Char :=
  match part.answer with
  | .ok compiled =>
    (if compiled.code.toList.getLast? = some '\n' then [] else ['\n']) ++ "</script>".toList
  | .error _ => ScriptBlock.closing ++ part.block.closingSpace ++ ['>']

theorem replaced_eq (language : String) (part : Part) :
    part.replaced language = part.lead language ++ (part.code ++ part.trail) := by
  unfold replaced lead code trail
  split <;> simp [ScriptBlock.text]

/-- The snippet of a part that stands behind `front` in a text. -/
def snippet (text : String) (front : List Char) (part : Part) : Snippet :=
  Snippet.ofBlock text (utf8Length (front ++ part.gap)) part.block

/-- Where the code of a part comes to stand that is added behind `front`. -/
def span (language : String) (front : List Char) (part : Part) : ByteSpan where
  start := utf8Length (front ++ (part.gap ++ part.lead language))
  stop := utf8Length (front ++ (part.gap ++ part.lead language)) + utf8Length part.code

/-- The snippets of parts that stand behind `front` in a text. -/
def snippets (text : String) : List Char → List Part → List Snippet
  | _, [] => []
  | front, part :: rest => part.snippet text front :: snippets text (front ++ part.written) rest

/-- Where the code of the first part of a kind comes to stand, if the parts are added behind `front`. -/
def firstSpan (language : String) (kind : ScriptKind) : List Char → List Part → Option ByteSpan
  | _, [] => none
  | front, part :: rest =>
    if part.kind = kind then some (part.span language front)
    else firstSpan language kind (front ++ part.rewritten language) rest

/-- The blocks of a part. -/
def blocks (part : Part) : List (List Char × ScriptBlock) :=
  part.skipped ++ [(part.before, part.block)]

theorem joined_blocks (part : Part) : joined part.blocks = part.written := by
  simp [blocks, written, gap, joined]

theorem joined_flatMap_blocks (parts : List Part) :
    joined (parts.flatMap blocks) = parts.flatMap written := by
  induction parts with
  | nil => rfl
  | cons part rest ih =>
      rw [List.flatMap_cons, List.flatMap_cons, ← ih, ← joined_blocks]
      simp [joined]

/-! ### From blocks to parts -/

/-- The blocks of a document, gathered into one part for each block in a language, given the answers to
their snippets. -/
theorem exists_parts (language : String) (entries : List (List Char × ScriptBlock))
    (answers : List Answer)
    (h : answers.length = (entries.filter fun entry => Snippet.isIn language entry.2).length) :
    ∃ (parts : List Part) (rest : List (List Char × ScriptBlock)),
      parts.map (·.answer) = answers ∧ entries = parts.flatMap blocks ++ rest ∧
      (∀ part ∈ parts, Snippet.isIn language part.block = true ∧
        ∀ entry ∈ part.skipped, Snippet.isIn language entry.2 = false) ∧
      ∀ entry ∈ rest, Snippet.isIn language entry.2 = false := by
  induction entries generalizing answers with
  | nil =>
      obtain rfl := List.length_eq_zero_iff.1 h
      exact ⟨[], [], rfl, rfl, by simp, by simp⟩
  | cons entry entries ih =>
      cases hin : Snippet.isIn language entry.2 with
      | true =>
          cases answers with
          | nil => simp [hin] at h
          | cons answer answers =>
              obtain ⟨parts, rest, rfl, rfl, hparts, hrest⟩ := ih answers (by simpa [hin] using h)
              refine ⟨⟨[], entry.1, entry.2, answer⟩ :: parts, rest, rfl, rfl, ?_, hrest⟩
              rw [List.forall_mem_cons]
              exact ⟨⟨hin, by simp⟩, hparts⟩
      | false =>
          obtain ⟨parts, rest, rfl, rfl, hparts, hrest⟩ := ih answers (by simpa [hin] using h)
          cases parts with
          | nil =>
              refine ⟨[], entry :: rest, rfl, rfl, by simp, ?_⟩
              rw [List.forall_mem_cons]
              exact ⟨hin, hrest⟩
          | cons part parts =>
              refine ⟨{ part with skipped := entry :: part.skipped } :: parts, rest, rfl, ?_, ?_,
                hrest⟩
              · simp [blocks]
              · rw [List.forall_mem_cons] at hparts ⊢
                refine ⟨⟨hparts.1.1, ?_⟩, hparts.2⟩
                rw [List.forall_mem_cons]
                exact ⟨hin, hparts.1.2⟩

/-- The snippets of a text, found part by part. -/
theorem ofBlocks_flatMap_blocks (text language : String) (front : List Char) {parts : List Part}
    {rest : List (List Char × ScriptBlock)}
    (hparts : ∀ part ∈ parts, Snippet.isIn language part.block = true ∧
      ∀ entry ∈ part.skipped, Snippet.isIn language entry.2 = false)
    (hrest : ∀ entry ∈ rest, Snippet.isIn language entry.2 = false) :
    Snippet.ofBlocks text language (utf8Length front) (parts.flatMap blocks ++ rest) =
      snippets text front parts := by
  induction parts generalizing front with
  | nil =>
      have hnone := Snippet.ofBlocks_skipped text language front hrest []
      rw [List.append_nil] at hnone
      rw [List.flatMap_nil, List.nil_append, hnone]
      rfl
  | cons part parts ih =>
      rw [List.forall_mem_cons] at hparts
      obtain ⟨⟨hin, hskipped⟩, hparts⟩ := hparts
      have hstart : utf8Length (front ++ joined part.skipped) + utf8Length part.before =
          utf8Length (front ++ part.gap) := by
        rw [gap, ← List.append_assoc, ← utf8Length_append]
      have hstop : utf8Length (front ++ part.gap) + utf8Length part.block.text =
          utf8Length (front ++ part.written) := by
        rw [written, ← List.append_assoc, ← utf8Length_append]
      rw [List.flatMap_cons, blocks, List.append_assoc, List.append_assoc,
        Snippet.ofBlocks_skipped text language front hskipped, List.singleton_append, Snippet.ofBlocks,
        if_pos hin, hstart, hstop, ih _ hparts, snippets, snippet]

/-- Parts that make up a text, up to the last block in the language: `rest` are the blocks behind it, and
`tail` is the text after all blocks. -/
structure Covers (language : String) (cs : List Char) (parts : List Part)
    (rest : List (List Char × ScriptBlock)) (tail : List Char) : Prop where
  split : splitBlocks cs = (parts.flatMap blocks ++ rest, tail)
  parts_in : ∀ part ∈ parts, Snippet.isIn language part.block = true ∧
    ∀ entry ∈ part.skipped, Snippet.isIn language entry.2 = false
  rest_in : ∀ entry ∈ rest, Snippet.isIn language entry.2 = false

/-- Every text is made up of parts, one for each of its snippets. -/
theorem exists_covers {text language : String} {answers : List Answer}
    (h : answers.length = (Snippet.ofText text language).length) :
    ∃ parts rest tail, parts.map (·.answer) = answers ∧
      Covers language text.toList parts rest tail := by
  rw [Snippet.ofText, Snippet.length_ofBlocks] at h
  obtain ⟨parts, rest, hanswers, hentries, hparts, hrest⟩ := exists_parts language _ answers h
  exact ⟨parts, rest, (splitBlocks text.toList).2, hanswers, Prod.ext hentries rfl, hparts, hrest⟩

namespace Covers

variable {language text : String} {parts : List Part} {rest : List (List Char × ScriptBlock)}
  {tail : List Char}

theorem text_eq (h : Covers language text.toList parts rest tail) :
    text.toList = parts.flatMap written ++ (joined rest ++ tail) := by
  have hjoined := joined_splitBlocks text.toList
  rw [h.split] at hjoined
  rw [← hjoined, ← joined_flatMap_blocks]
  simp [joined]

theorem snippets_eq (h : Covers language text.toList parts rest tail) :
    Snippet.ofText text language = snippets text [] parts := by
  rw [Snippet.ofText, h.split]
  exact ofBlocks_flatMap_blocks text language [] h.parts_in h.rest_in

end Covers

theorem firstSpan_eq {language : String} {kind : ScriptKind} {earlier later : List Part} {part : Part}
    (front : List Char) (hkind : part.kind = kind) (hfirst : ∀ other ∈ earlier, other.kind ≠ kind) :
    firstSpan language kind front (earlier ++ part :: later) =
      some (part.span language (front ++ earlier.flatMap (rewritten language))) := by
  induction earlier generalizing front with
  | nil => simp [firstSpan, hkind]
  | cons first earlier ih =>
      rw [List.forall_mem_cons] at hfirst
      rw [List.cons_append, firstSpan, if_neg hfirst.1, ih _ hfirst.2, List.flatMap_cons,
        List.append_assoc]

theorem firstSpan_eq_none {language : String} {kind : ScriptKind} {parts : List Part}
    (front : List Char) (h : ∀ part ∈ parts, part.kind ≠ kind) :
    firstSpan language kind front parts = none := by
  induction parts generalizing front with
  | nil => rfl
  | cons first parts ih =>
      rw [List.forall_mem_cons] at h
      rw [firstSpan, if_neg h.1, ih _ h.2]

/-- Cutting the code of a part out of a text that holds the rewritten part. -/
theorem sliceBytes_span (language : String) (front back : List Char) (part : Part) :
    sliceBytes (part.span language front).start (part.span language front).stop
      (front ++ (part.rewritten language ++ back)) = some part.code := by
  have htext : front ++ (part.rewritten language ++ back) =
      front ++ (part.gap ++ part.lead language) ++ (part.code ++ (part.trail ++ back)) := by
    rw [rewritten, replaced_eq]
    simp
  rw [htext]
  exact sliceBytes_append _ _ _

/-- A part whose snippet did not compile stays as it is. -/
theorem rewritten_of_error {language : String} {part : Part} {error : CompileError}
    (h : part.answer = .error error) : part.rewritten language = part.written := by
  rw [rewritten, replaced, h, written]

end Part

/-! ### Blocks that were noted -/

/-- The stretch of a block's code. -/
def Block.span (block : Block) : ByteSpan where
  start := block.start
  stop := block.stop

/-- The block of a kind. -/
def Document.block? (document : Document) : ScriptKind → Option Block
  | .moduleScript => document.moduleBlock
  | .instanceScript => document.instanceBlock

/-- The block of a kind so far. -/
def Splice.block? (splice : Splice) : ScriptKind → Option Block
  | .moduleScript => splice.moduleBlock
  | .instanceScript => splice.instanceBlock

theorem Splice.block?_note (splice : Splice) (noted kind : ScriptKind) (block : Block) :
    (splice.note noted block).block? kind =
      (splice.block? kind).or (if noted = kind then some block else none) := by
  cases noted <;> cases kind <;> simp [note, block?]

theorem Splice.code_note (splice : Splice) (kind : ScriptKind) (block : Block) :
    (splice.note kind block).code = splice.code := by
  cases kind <;> rfl

theorem Splice.cursor_note (splice : Splice) (kind : ScriptKind) (block : Block) :
    (splice.note kind block).cursor = splice.cursor := by
  cases kind <;> rfl

theorem Splice.block?_finish (splice : Splice) (text : String) (kind : ScriptKind) :
    (splice.finish text).block? kind = splice.block? kind := by
  cases kind <;> rfl

namespace Normalizer

theorem settle_ok (normalizer : Normalizer) (compiled : Compiled) (snippet : String) (host : Host)
    (placement : Placement) :
    (normalizer.settle (.ok compiled) snippet host placement).1.compiled = true ∧
      (normalizer.settle (.ok compiled) snippet host placement).1.code = compiled.code := by
  match compiled with
  | ⟨_, none⟩ => exact ⟨rfl, rfl⟩
  | ⟨_, some _⟩ => exact ⟨rfl, rfl⟩

theorem replacement_of_compiled {language block : String} {snippet : Snippet} {result : SnippetResult}
    (h : result.compiled = true) :
    replacement language snippet block result =
      (openingFor snippet.attributes language ++ result.code ++ closingFor result.code,
        (openingFor snippet.attributes language).utf8ByteSize, result.code.utf8ByteSize) :=
  if_pos h

/-- The block that replaces a part's own, and the bytes before and of its code. -/
theorem replacement_settle (normalizer : Normalizer) (host : Host) (language text : String)
    (front : List Char) (part : Part) :
    replacement language (part.snippet text front) (String.ofList part.block.text)
        (normalizer.settle part.answer (part.snippet text front).code host
          (part.snippet text front).placement).1 =
      (String.ofList (part.replaced language), utf8Length (part.lead language),
        utf8Length part.code) := by
  obtain ⟨skipped, before, block, answer⟩ := part
  cases answer with
  | error error =>
      simp [settle, replacement, Part.replaced, Part.lead, Part.code, Part.snippet, Snippet.ofBlock]
  | ok compiled =>
      obtain ⟨hcompiled, hcode⟩ := normalizer.settle_ok compiled
        (String.ofList (dedent block.content)) host
        (Part.snippet text front ⟨skipped, before, block, .ok compiled⟩).placement
      refine (replacement_of_compiled hcompiled).trans ?_
      rw [hcode]
      simp [Part.replaced, Part.lead, Part.code, Part.snippet, Snippet.ofBlock, openingFor, closingFor,
        utf8ByteSize_eq, ← String.toList_inj, apply_ite String.toList]

end Normalizer

/-! ### Adding parts -/

/-- **What adding a snippet does to a document**, up to whose part the text is done: the rewritten part
comes behind what is there, and the place of its code is noted if it is the first of its kind. -/
theorem Splice.add_spec (normalizer : Normalizer) {host : Host} {splice : Splice} {part : Part}
    {front back : List Char} (language : String)
    (htext : host.text.toList = front ++ (part.written ++ back))
    (hcursor : splice.cursor = utf8Length front) :
    let snippet := part.snippet host.text front
    let next := splice.add host.text language snippet
      (normalizer.settle part.answer snippet.code host snippet.placement).1
    next.code.toList = splice.code.toList ++ part.rewritten language ∧
      next.cursor = utf8Length (front ++ part.written) ∧
      ∀ kind, (next.block? kind).map Block.span =
        ((splice.block? kind).map Block.span).or
          (if part.kind = kind then some (part.span language splice.code.toList) else none) := by
  intro snippet next
  have hgap : bytesOf host.text splice.cursor snippet.block.start = String.ofList part.gap := by
    rw [hcursor]
    have htail : host.text.toList = front ++ (part.gap ++ (part.block.text ++ back)) := by
      rw [htext, Part.written, List.append_assoc]
    exact bytesOf_eq htail
  have hstop : snippet.block.stop = utf8Length (front ++ part.written) := by
    rw [Part.written, ← List.append_assoc, utf8Length_append (front ++ part.gap)]
    rfl
  have hblock : bytesOf host.text snippet.block.start snippet.block.stop =
      String.ofList part.block.text := by
    rw [hstop, Part.written, ← List.append_assoc]
    have htail : host.text.toList = front ++ part.gap ++ (part.block.text ++ back) := by
      rw [htext, Part.written, List.append_assoc, List.append_assoc]
    exact bytesOf_eq htail
  have hreplacement := normalizer.replacement_settle host language host.text front part
  refine ⟨?_, ?_, fun kind => ?_⟩
  · simp only [next, Splice.add, Splice.code_note, hgap, hblock, snippet, hreplacement]
    simp [Part.rewritten]
  · simp only [next, Splice.add, Splice.cursor_note, hstop]
  · simp only [next, Splice.add, Splice.block?_note, hgap, hblock, snippet, hreplacement]
    have hkind : (part.snippet host.text front).kind = part.kind := rfl
    rw [hkind]
    have hsame : ∀ (code : String) (cursor : Nat),
        ({ splice with code, cursor } : Splice).block? kind = splice.block? kind := by
      intro code cursor
      cases kind <;> rfl
    rw [hsame]
    cases splice.block? kind with
    | some block => simp
    | none =>
        by_cases h : part.kind = kind
        · simp [h, Block.span, Part.span, utf8ByteSize_eq, Nat.add_assoc]
        · simp [h]

/-- **What adding all snippets does.** -/
theorem Normalizer.spliceAll_spec (normalizer : Normalizer) {host : Host} {splice : Splice}
    {parts : List Part} {front back : List Char}
    (htext : host.text.toList = front ++ (parts.flatMap Part.written ++ back))
    (hcursor : splice.cursor = utf8Length front) :
    let last := (normalizer.spliceAll host splice
      ((Part.snippets host.text front parts).zip (parts.map (·.answer)))).1
    last.code.toList = splice.code.toList
        ++ parts.flatMap (Part.rewritten normalizer.rules.outputLang) ∧
      last.cursor = utf8Length (front ++ parts.flatMap Part.written) ∧
      ∀ kind, (last.block? kind).map Block.span =
        ((splice.block? kind).map Block.span).or
          (Part.firstSpan normalizer.rules.outputLang kind splice.code.toList parts) := by
  induction parts generalizing splice front with
  | nil => simp [Part.snippets, spliceAll, Part.firstSpan, hcursor]
  | cons part parts ih =>
      have hpart : host.text.toList =
          front ++ (part.written ++ (parts.flatMap Part.written ++ back)) := by
        rw [htext]
        simp
      obtain ⟨hcode, hnext, hblocks⟩ :=
        Splice.add_spec normalizer normalizer.rules.outputLang hpart hcursor
      obtain ⟨hcode', hnext', hblocks'⟩ := ih (by rw [hpart]; simp) hnext
      refine ⟨?_, ?_, fun kind => ?_⟩
      · simp only [Part.snippets, List.map_cons, List.zip_cons_cons, spliceAll, hcode', hcode]
        simp
      · simp only [Part.snippets, List.map_cons, List.zip_cons_cons, spliceAll, hnext']
        simp
      · simp only [Part.snippets, List.map_cons, List.zip_cons_cons, spliceAll, hblocks', hblocks,
          hcode, Part.firstSpan, Option.or_assoc]
        by_cases h : part.kind = kind <;> simp [h]

/-! ### The finished document -/

namespace Normalizer

variable {normalizer : Normalizer} {host : Host} {parts : List Part}
  {rest : List (List Char × ScriptBlock)} {tail : List Char}

/-- Adding all snippets of a text that is made up of parts. -/
theorem spliceAll_snippets
    (h : Part.Covers normalizer.rules.scriptLang host.text.toList parts rest tail) :
    let last := (normalizer.spliceAll host {}
      ((normalizer.snippets host).zip (parts.map (·.answer)))).1
    last.code.toList = parts.flatMap (Part.rewritten normalizer.rules.outputLang) ∧
      last.cursor = utf8Length (parts.flatMap Part.written) ∧
      ∀ kind, (last.block? kind).map Block.span =
        Part.firstSpan normalizer.rules.outputLang kind [] parts := by
  have htext : host.text.toList =
      [] ++ (parts.flatMap Part.written ++ (joined rest ++ tail)) := h.text_eq
  have hcursor : ({} : Splice).cursor = utf8Length [] := rfl
  obtain ⟨hcode, hlast, hblocks⟩ := normalizer.spliceAll_spec htext hcursor
  simp only [snippets, h.snippets_eq]
  refine ⟨by simp [hcode], by simp [hlast], fun kind => ?_⟩
  rw [hblocks]
  cases kind <;> simp [Splice.block?]

/-- The code of a document: its parts rewritten, and the text behind them. -/
theorem code_document
    (h : Part.Covers normalizer.rules.scriptLang host.text.toList parts rest tail) :
    (normalizer.document host (parts.map (·.answer))).1.code.toList =
      parts.flatMap (Part.rewritten normalizer.rules.outputLang) ++ (joined rest ++ tail) := by
  obtain ⟨hcode, hlast, -⟩ := spliceAll_snippets h
  have hend : host.text.utf8ByteSize =
      utf8Length (parts.flatMap Part.written ++ (joined rest ++ tail)) := by
    rw [utf8ByteSize_eq, ← h.text_eq]
  have htail : host.text.toList =
      parts.flatMap Part.written ++ ((joined rest ++ tail) ++ []) := by
    rw [List.append_nil, ← h.text_eq]
  simp only [document, Splice.finish, String.toList_append, hcode, hlast, hend, bytesOf_eq htail,
    String.toList_ofList]

/-- Where the code of the block noted for a kind stands. -/
theorem block?_document
    (h : Part.Covers normalizer.rules.scriptLang host.text.toList parts rest tail)
    (kind : ScriptKind) :
    ((normalizer.document host (parts.map (·.answer))).1.block? kind).map Block.span =
      Part.firstSpan normalizer.rules.outputLang kind [] parts := by
  obtain ⟨-, -, hblocks⟩ := spliceAll_snippets h
  simp only [document, Splice.block?_finish, hblocks]

/-- **A compiled document is its host with each block replaced.**  The host is made up of one part for each
snippet and a tail; the document is made up of the rewritten parts and the same tail; and the block noted
for a kind holds the code of the first part of that kind. -/
theorem document_parts (normalizer : Normalizer) (host : Host) (answers : List Answer)
    (hanswers : answers.length = (normalizer.snippets host).length) :
    let document := (normalizer.document host answers).1
    ∃ (parts : List Part) (tail : List Char),
      parts.map (·.answer) = answers ∧
      normalizer.snippets host = Part.snippets host.text [] parts ∧
      host.text.toList = parts.flatMap Part.written ++ tail ∧
      document.code.toList =
        parts.flatMap (Part.rewritten normalizer.rules.outputLang) ++ tail ∧
      (∀ part ∈ parts, ∃ found, findLang part.block.attributes = some found ∧
        part.block.attributes = found.text ∧ found.value = normalizer.rules.scriptLang.toList ∧
        replaceLang part.block.attributes normalizer.rules.outputLang.toList =
          { found with value := normalizer.rules.outputLang.toList }.text) ∧
      (∀ earlier part later, parts = earlier ++ part :: later →
        (∀ other ∈ earlier, other.kind ≠ part.kind) →
        ∃ block, document.block? part.kind = some block ∧
          sliceBytes block.start block.stop document.code.toList = some part.code) ∧
      (∀ kind, (∀ part ∈ parts, part.kind ≠ kind) → document.block? kind = none) ∧
      ((∀ answer ∈ answers, ∃ error, answer = .error error) → document.code = host.text) := by
  intro document
  obtain ⟨parts, rest, tail, rfl, hcovers⟩ := Part.exists_covers hanswers
  have hcode : document.code.toList = _ := code_document hcovers
  have hblock := block?_document hcovers
  refine ⟨parts, joined rest ++ tail, rfl, hcovers.snippets_eq, hcovers.text_eq, hcode, ?_, ?_, ?_, ?_⟩
  · intro part hpart
    obtain ⟨found, hfound, hvalue⟩ := Snippet.exists_lang_of_isIn (hcovers.parts_in part hpart).1
    refine ⟨found, hfound, eq_text_of_findLang hfound, hvalue, ?_⟩
    rw [replaceLang, hfound]
    simp [LangAttribute.text]
  · rintro earlier part later rfl hfirst
    have hspan := hblock part.kind
    rw [Part.firstSpan_eq [] rfl hfirst, List.nil_append] at hspan
    obtain ⟨block, hnoted, hat⟩ := Option.map_eq_some_iff.1 hspan
    obtain ⟨hstart, hstop⟩ := ByteSpan.mk.inj hat
    refine ⟨block, hnoted, ?_⟩
    rw [hstart, hstop, hcode, List.flatMap_append, List.flatMap_cons, List.append_assoc,
      List.append_assoc]
    exact part.sliceBytes_span _ _ _
  · intro kind hnone
    have hspan := hblock kind
    rw [Part.firstSpan_eq_none [] hnone] at hspan
    exact Option.map_eq_none_iff.1 hspan
  · intro hfailed
    have hkept : parts.flatMap (Part.rewritten normalizer.rules.outputLang) =
        parts.flatMap Part.written := by
      refine List.flatMap_congr fun part hpart => ?_
      obtain ⟨error, herror⟩ := hfailed part.answer (List.mem_map_of_mem hpart)
      exact Part.rewritten_of_error herror
    rw [← String.toList_inj, hcode, hkept, ← hcovers.text_eq]

/-- A block in another language, one that does not compile, a module block that does, and a second block of
the first kind. -/
theorem document_parts_mixed :
    ∃ (host : Host) (answers : List Answer) (parts : List Part) (tail : List Char),
      host = ⟨"App.svelte", "é<script>1</script><script lang='civet'>a</script>\n"
        ++ "<script lang=\"civet\" context=\"module\">b</script >-<script lang='civet'>c</script>!"⟩ ∧
      answers = [.error (.failed "App.svelte" "no"), .ok ⟨"B", none⟩, .ok ⟨"C\n", none⟩] ∧
      answers.length = (snippets ⟨Rules.standard, readSyntax⟩ host).length ∧
      parts.map (·.answer) = answers ∧
      host.text.toList = parts.flatMap Part.written ++ tail ∧
      "é<script>1</script><script lang='civet'>a</script>\n"
        ++ "<script lang=\"ts\" context=\"module\">\nB\n</script>-<script lang='ts'>\nC\n</script>!"
        = (document ⟨Rules.standard, readSyntax⟩ host answers).1.code ∧
      (document ⟨Rules.standard, readSyntax⟩ host answers).1.code.toList =
        parts.flatMap (Part.rewritten "ts") ++ tail := by
  let host : Host := ⟨"App.svelte", "é<script>1</script><script lang='civet'>a</script>\n"
    ++ "<script lang=\"civet\" context=\"module\">b</script >-<script lang='civet'>c</script>!"⟩
  let answers : List Answer :=
    [.error (.failed "App.svelte" "no"), .ok ⟨"B", none⟩, .ok ⟨"C\n", none⟩]
  have hanswers : answers.length = (snippets ⟨Rules.standard, readSyntax⟩ host).length := by
    decide +kernel
  obtain ⟨parts, tail, hparts, -, htext, hcode, -⟩ := document_parts _ host answers hanswers
  exact ⟨host, answers, parts, tail, rfl, rfl, hanswers, hparts, htext, by decide +kernel, hcode⟩

end Normalizer

end Inlay
