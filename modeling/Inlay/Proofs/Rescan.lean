/-
**Scanning a compiled document again.**

Compiled blocks are written with new tags around text of any kind, between other blocks and whatever else
stands in the host.  A second scan finds the same blocks, and none of them is a snippet any more.

Main definitions:

* `Inlay.Part.newBlock` — the block of a part in the end, in its parts.

Main results:

* `Inlay.Part.Covers.splitBlocks_rewritten` — the blocks of a compiled document;
* `Inlay.Normalizer.document_rescan` — **a compiled document holds no snippets**.
-/
import Inlay.Proofs.Splice
import Inlay.Proofs.Tags

set_option autoImplicit false

namespace Inlay

open Text

namespace Markup

open ScriptBlock

/-- Text without the start of a closing tag holds no closing tag. -/
theorem untilClose_eq_none_of_notInfix {content : List Char} (h : ¬ closing <:+: content) :
    untilClose content = none := by
  rw [Option.eq_none_iff_forall_ne_some]
  rintro ⟨front, space, after⟩ hclose
  exact h ⟨front, space ++ '>' :: after, by rw [eq_of_untilClose hclose]; simp⟩

/-- A word that does not hold a character does not start with it. -/
theorem infix_of_infix_cons {word cs : List Char} {c : Char} (hword : word ≠ []) (hc : c ∉ word)
    (h : word <:+: c :: cs) : word <:+: cs := by
  rcases List.infix_cons_iff.1 h with hprefix | hinfix
  · obtain ⟨d, word, rfl⟩ := List.exists_cons_of_ne_nil hword
    obtain ⟨rfl, -⟩ := List.cons_prefix_cons.1 hprefix
    simp at hc
  · exact hinfix

/-- Nor does it end with it. -/
theorem infix_of_infix_concat {word cs : List Char} {c : Char} (hword : word ≠ []) (hc : c ∉ word)
    (h : word <:+: cs ++ [c]) : word <:+: cs := by
  rw [← List.reverse_infix, List.reverse_append] at h
  rw [← List.reverse_infix]
  exact infix_of_infix_cons (by simpa using hword) (by simpa using hc) h

end Markup

/-! ### Compiled parts -/

namespace Part

open Markup ScriptBlock

/-- The block of a part in the end, in its parts. -/
def newBlock (language : String) (part : Part) : ScriptBlock :=
  match part.answer with
  | .ok compiled =>
    { attributes := replaceLang part.block.attributes language.toList
      content := '\n' :: (compiled.code.toList
        ++ if compiled.code.toList.getLast? = some '\n' then [] else ['\n'])
      closingSpace := [] }
  | .error _ => part.block

theorem text_newBlock (language : String) (part : Part) :
    (part.newBlock language).text = part.replaced language := by
  have hopening : opening = "<script".toList := rfl
  have hclosing : closing ++ ['>'] = "</script>".toList := by decide
  have hbreak : ">\n".toList = ['>', '\n'] := by decide
  unfold newBlock replaced
  cases part.answer with
  | ok compiled =>
      rw [← hopening, ← hclosing, hbreak]
      simp only [ScriptBlock.text, ScriptBlock.openTag, List.append_assoc, List.cons_append,
        List.nil_append, List.append_nil]
  | error error => rfl

/-- The blocks of a part in the end. -/
def newBlocks (language : String) (part : Part) : List (List Char × ScriptBlock) :=
  part.skipped ++ [(part.before, part.newBlock language)]

theorem joined_newBlocks (language : String) (parts : List Part) :
    joined (parts.flatMap (newBlocks language)) = parts.flatMap (rewritten language) := by
  induction parts with
  | nil => rfl
  | cons part parts ih =>
      rw [List.flatMap_cons, List.flatMap_cons, ← ih, rewritten, ← text_newBlock]
      simp [joined, newBlocks, gap]

variable {language : String} {part : Part} {compiled : Compiled}

theorem tidy_newBlock (hanswer : part.answer = .ok compiled) (htidy : part.block.Tidy)
    (hlanguage : '>' ∉ language.toList) (hcode : ¬ closing <:+: compiled.code.toList) :
    (part.newBlock language).Tidy := by
  simp only [newBlock, hanswer]
  refine ⟨fun hmem => ?_, ?_, ?_, by simp⟩
  · rcases mem_replaceLang hmem with hmem | hmem
    · exact htidy.notMem_attributes hmem
    · exact hlanguage hmem
  · rw [head?_replaceLang]
    exact htidy.head_attributes
  · refine untilClose_eq_none_of_notInfix fun hinfix => hcode ?_
    have hbody := infix_of_infix_cons (by decide) (by decide) hinfix
    split at hbody
    · simpa using hbody
    · exact infix_of_infix_concat (by decide) (by decide) hbody

/-- A compiled block is in the new language, hence no snippet. -/
theorem isIn_newBlock {source : String} (hanswer : part.answer = .ok compiled)
    (hin : Snippet.isIn source part.block = true) (hne : language ≠ source)
    (hquote : ∀ c ∈ language.toList, isQuote c = false) :
    Snippet.isIn source (part.newBlock language) = false := by
  obtain ⟨found, hfound, -⟩ := Snippet.exists_lang_of_isIn hin
  simp only [newBlock, hanswer, Snippet.isIn, findLang_replaceLang hfound hquote, Option.any_some]
  exact beq_false_of_ne fun heq => hne (String.toList_inj.1 heq)

end Part

/-! ### The second scan -/

open Markup

/-- A text that is made up of blocks in other languages holds no snippets. -/
theorem Snippet.ofText_eq_nil {text language : String}
    (h : ∀ entry ∈ (splitBlocks text.toList).1, isIn language entry.2 = false) :
    ofText text language = [] := by
  have hnone := ofBlocks_skipped text language [] h []
  rwa [List.append_nil] at hnone

/-- The blocks of a compiled document: those of its host, with the new block in each part. -/
theorem Part.Covers.splitBlocks_rewritten {source language : String} {cs tail : List Char}
    {parts : List Part} {rest : List (List Char × ScriptBlock)}
    (h : Part.Covers source cs parts rest tail)
    (htidy : ∀ part ∈ parts, part.block.Tidy → (part.newBlock language).Tidy) :
    splitBlocks (parts.flatMap (Part.rewritten language) ++ (joined rest ++ tail)) =
      (parts.flatMap (Part.newBlocks language) ++ rest, tail) := by
  obtain ⟨-, hblocks, htail⟩ := splitBlocks_eq_iff.1 h.split
  rw [List.forall_mem_append] at hblocks
  obtain ⟨hparts, hrest⟩ := hblocks
  refine splitBlocks_eq_iff.2 ⟨?_, ?_, htail⟩
  · rw [← Part.joined_newBlocks]
    simp [joined]
  · rw [List.forall_mem_append]
    refine ⟨fun entry hentry => ?_, hrest⟩
    obtain ⟨part, hpart, hentry⟩ := List.mem_flatMap.1 hentry
    have hold : ∀ entry ∈ part.blocks, Plain entry.1 ∧ entry.2.Tidy :=
      fun entry hentry => hparts entry (List.mem_flatMap.2 ⟨part, hpart, hentry⟩)
    rw [Part.blocks, List.forall_mem_append, List.forall_mem_singleton] at hold
    rcases List.mem_append.1 hentry with hskipped | hnew
    · exact hold.1 entry hskipped
    · rw [List.mem_singleton.1 hnew]
      exact ⟨hold.2.1, htidy part hpart hold.2.2⟩

namespace Normalizer

/-- A document without snippets is its host. -/
theorem document_of_snippets_eq_nil {normalizer : Normalizer} {host : Host}
    (h : normalizer.snippets host = []) (answers : List Answer) :
    normalizer.document host answers = ({ code := host.text }, []) := by
  have hall : bytesOf host.text 0 host.text.utf8ByteSize = host.text := by
    have htext : host.text.toList = [] ++ (host.text.toList ++ []) := by simp
    have hbytes := bytesOf_eq htext
    rwa [List.nil_append, ← utf8ByteSize_eq, String.ofList_toList] at hbytes
  simp [document, h, spliceAll, Splice.finish, hall]

/-- **A compiled document holds no snippets**, if every snippet compiled, the new language is another one and
can stand in a tag, and no compiled code holds the start of a closing tag.  So compiling it again asks the
compiler for nothing, changes nothing and notes no blocks. -/
theorem document_rescan (normalizer : Normalizer) (host : Host) (answers : List Answer)
    (hanswers : answers.length = (normalizer.snippets host).length)
    (hlanguage : normalizer.rules.outputLang ≠ normalizer.rules.scriptLang)
    (hplain : ∀ c ∈ normalizer.rules.outputLang.toList, isQuote c = false ∧ c ≠ '>')
    (hcompiled : ∀ answer ∈ answers, ∃ compiled : Compiled,
      answer = .ok compiled ∧ ¬ ScriptBlock.closing <:+: compiled.code.toList) (path : String) :
    let again : Host := ⟨path, (normalizer.document host answers).1.code⟩
    normalizer.snippets again = [] ∧
      (∀ answers, normalizer.document again answers = ({ code := again.text }, [])) ∧
      ∀ compile, normalizer.documentBy compile again = ({ code := again.text }, []) := by
  intro again
  obtain ⟨parts, rest, tail, rfl, hcovers⟩ := Part.exists_covers hanswers
  have hok : ∀ part ∈ parts, ∃ compiled : Compiled,
      part.answer = .ok compiled ∧ ¬ ScriptBlock.closing <:+: compiled.code.toList :=
    fun part hpart => hcompiled part.answer (List.mem_map_of_mem hpart)
  have hsplit : splitBlocks again.text.toList =
      (parts.flatMap (Part.newBlocks normalizer.rules.outputLang) ++ rest, tail) := by
    rw [show again.text.toList = _ from code_document hcovers]
    refine hcovers.splitBlocks_rewritten fun part hpart htidy => ?_
    obtain ⟨compiled, hanswer, hcode⟩ := hok part hpart
    exact Part.tidy_newBlock hanswer htidy (fun hmem => (hplain _ hmem).2 rfl) hcode
  have hnone : normalizer.snippets again = [] := by
    refine Snippet.ofText_eq_nil ?_
    rw [hsplit, List.forall_mem_append]
    refine ⟨fun entry hentry => ?_, hcovers.rest_in⟩
    obtain ⟨part, hpart, hentry⟩ := List.mem_flatMap.1 hentry
    obtain ⟨hin, hskipped⟩ := hcovers.parts_in part hpart
    rcases List.mem_append.1 hentry with hold | hnew
    · exact hskipped entry hold
    · obtain ⟨compiled, hanswer, -⟩ := hok part hpart
      rw [List.mem_singleton.1 hnew]
      exact Part.isIn_newBlock hanswer hin hlanguage fun c hc => (hplain c hc).1
  exact ⟨hnone, document_of_snippets_eq_nil hnone,
    fun compile => document_of_snippets_eq_nil hnone _⟩

/-- A stray opening tag before and behind the blocks, a second language attribute, and code that holds an
opening tag. -/
theorem document_rescan_stray :
    ∃ (host : Host) (answers : List Answer),
      host = ⟨"App.svelte", "<scripts><script lang='civet' lang='civet'>a</script\n>"
        ++ "<script>b</script><script lang=\"civet\">c</script> <script lang='civet'>"⟩ ∧
      answers = [.ok ⟨"'<script lang=\"civet\">'", none⟩, .ok ⟨"C\n", none⟩] ∧
      answers.length = (snippets ⟨Rules.standard, readSyntax⟩ host).length ∧
      Rules.standard.outputLang ≠ Rules.standard.scriptLang ∧
      (∀ c ∈ Rules.standard.outputLang.toList, isQuote c = false ∧ c ≠ '>') ∧
      (∀ answer ∈ answers, ∃ compiled : Compiled,
        answer = .ok compiled ∧ ¬ ScriptBlock.closing <:+: compiled.code.toList) ∧
      snippets ⟨Rules.standard, readSyntax⟩
        ⟨"App.svelte", (document ⟨Rules.standard, readSyntax⟩ host answers).1.code⟩ = [] := by
  let host : Host := ⟨"App.svelte", "<scripts><script lang='civet' lang='civet'>a</script\n>"
    ++ "<script>b</script><script lang=\"civet\">c</script> <script lang='civet'>"⟩
  let answers : List Answer := [.ok ⟨"'<script lang=\"civet\">'", none⟩, .ok ⟨"C\n", none⟩]
  have hanswers : answers.length = (snippets ⟨Rules.standard, readSyntax⟩ host).length := by
    decide +kernel
  have hlanguage : Rules.standard.outputLang ≠ Rules.standard.scriptLang := by decide +kernel
  have hall : Rules.standard.outputLang.toList.all (fun c => !isQuote c && c != '>') = true := by
    decide +kernel
  have hplain : ∀ c ∈ Rules.standard.outputLang.toList, isQuote c = false ∧ c ≠ '>' := by
    intro c hc
    simpa using List.all_eq_true.1 hall c hc
  have hcompiled : ∀ answer ∈ answers, ∃ compiled : Compiled,
      answer = .ok compiled ∧ ¬ ScriptBlock.closing <:+: compiled.code.toList := by
    simp only [answers, List.forall_mem_cons]
    exact ⟨⟨_, rfl, by decide +kernel⟩, ⟨_, rfl, by decide +kernel⟩, by simp⟩
  exact ⟨host, answers, rfl, rfl, hanswers, hlanguage, hplain, hcompiled,
    (document_rescan ⟨Rules.standard, readSyntax⟩ host answers hanswers hlanguage hplain hcompiled
      "App.svelte").1⟩

end Normalizer

end Inlay
