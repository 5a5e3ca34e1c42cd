/-
**The parts of a document.**

`Inlay/Markup/Script.lean` cuts a document into script blocks and what stands between them.  Nothing is
lost by that: the parts, put together again, are the document.  So a snippet stands in the document
where its spans say that it stands.

Main definitions:

* `Inlay.Markup.joined` — blocks with the text before each, put together.

Main results:

* `Inlay.Markup.eq_of_blockAt`, `Inlay.Markup.eq_of_firstBlock` — a block that was found, as written;
* `Inlay.Markup.joined_splitBlocks` — **the parts of a document make up the document**;
* `Inlay.Snippet.mem_ofBlocks_iff` — which snippets there are;
* `Inlay.Snippet.exists_of_mem_ofText` — **a snippet is the dedented content of a block of the text**.
-/
import Inlay.Proofs.Words
import Inlay.Snippet
import Mathlib.Data.List.Basic

set_option autoImplicit false

namespace Inlay

namespace Markup

open ScriptBlock

/-! ### One block -/

theorem eq_of_closeTagAt {cs space after : List Char} (h : closeTagAt cs = some (space, after)) :
    cs = closing ++ (space ++ '>' :: after) := by
  unfold closeTagAt at h
  split at h
  · simp at h
  · next rest hrest =>
      split at h
      · next tail htail =>
          obtain ⟨rfl, rfl⟩ : rest.takeWhile Unicode.isSpace = space ∧ tail = after := by
            simpa using h
          rw [Text.eq_append_of_dropFront hrest, ← htail, List.takeWhile_append_dropWhile]
      · simp at h

theorem eq_of_untilClose {cs content space after : List Char}
    (h : untilClose cs = some (content, space, after)) :
    cs = content ++ (closing ++ (space ++ '>' :: after)) := by
  induction cs generalizing content with
  | nil => simp [untilClose] at h
  | cons c cs ih =>
      unfold untilClose at h
      split at h
      · next hclose =>
          obtain ⟨rfl, rfl, rfl⟩ : [] = content ∧ _ = space ∧ _ = after := by simpa using h
          exact eq_of_closeTagAt hclose
      · obtain ⟨⟨front, space', after'⟩, hrest, heq⟩ := Option.map_eq_some_iff.1 h
        obtain ⟨rfl, rfl, rfl⟩ : c :: front = content ∧ space' = space ∧ after' = after := by
          simpa using heq
        rw [ih hrest, List.cons_append]

/-- A block at the start of a text is written there. -/
theorem eq_of_blockAt {cs after : List Char} {block : ScriptBlock}
    (h : blockAt cs = some (block, after)) : cs = block.text ++ after := by
  unfold blockAt at h
  split at h
  · simp at h
  · next rest hrest =>
      split at h
      · simp at h
      · split at h
        · next body hbody =>
            obtain ⟨⟨content, space, tail⟩, hclose, heq⟩ := Option.map_eq_some_iff.1 h
            obtain ⟨rfl, rfl⟩ : _ = block ∧ tail = after := by simpa using heq
            have htag : rest = rest.takeWhile (· != '>') ++ '>' :: body := by
              rw [← hbody, List.takeWhile_append_dropWhile]
            rw [Text.eq_append_of_dropFront hrest]
            conv_lhs => rw [htag, eq_of_untilClose hclose]
            simp [ScriptBlock.text, ScriptBlock.openTag]
        · simp at h

/-- The first block of a text, with what stands before and after it. -/
theorem eq_of_firstBlock {cs before after : List Char} {block : ScriptBlock}
    (h : firstBlock cs = some (before, block, after)) : cs = before ++ (block.text ++ after) := by
  induction cs generalizing before with
  | nil => simp [firstBlock] at h
  | cons c cs ih =>
      unfold firstBlock at h
      split at h
      · next hblock =>
          obtain ⟨rfl, rfl, rfl⟩ : [] = before ∧ _ = block ∧ _ = after := by simpa using h
          exact eq_of_blockAt hblock
      · obtain ⟨⟨front, block', after'⟩, hrest, heq⟩ := Option.map_eq_some_iff.1 h
        obtain ⟨rfl, rfl, rfl⟩ : c :: front = before ∧ block' = block ∧ after' = after := by
          simpa using heq
        rw [ih hrest, List.cons_append]

/-! ### All blocks -/

/-- Blocks with the text before each, put together. -/
def joined (blocks : List (List Char × ScriptBlock)) : List Char :=
  blocks.flatMap fun entry => entry.1 ++ entry.2.text

theorem joined_cons (before : List Char) (block : ScriptBlock)
    (rest : List (List Char × ScriptBlock)) :
    joined ((before, block) :: rest) = before ++ (block.text ++ joined rest) := by
  simp [joined]

theorem joined_splitBlocksUpTo (count : Nat) (cs : List Char) :
    joined (splitBlocksUpTo count cs).1 ++ (splitBlocksUpTo count cs).2 = cs := by
  induction count generalizing cs with
  | zero => rfl
  | succ count ih =>
      unfold splitBlocksUpTo
      split
      · rfl
      · next before block after hblock =>
          rw [joined_cons, List.append_assoc, List.append_assoc, ih after]
          exact (eq_of_firstBlock hblock).symm

/-- **The parts of a document make up the document.** -/
theorem joined_splitBlocks (cs : List Char) :
    joined (splitBlocks cs).1 ++ (splitBlocks cs).2 = cs :=
  joined_splitBlocksUpTo cs.length cs

end Markup

namespace Snippet

open Markup

/-- Where a snippet comes from: the content of a block, at a place in the text. -/
structure StandsIn (snippet : Snippet) (text : String) (front content back : List Char) : Prop where
  text_eq : text.toList = front ++ (content ++ back)
  code_eq : snippet.code = String.ofList (dedent content)
  placement_eq : snippet.placement = placementOf text (Text.utf8Length front) content

theorem exists_standsIn_ofBlock {text : String} {before after : List Char} {block : ScriptBlock}
    (h : text.toList = before ++ (block.text ++ after)) :
    ∃ front content back,
      (ofBlock text (Text.utf8Length before) block).StandsIn text front content back := by
  refine ⟨before ++ block.openTag, block.content,
    ScriptBlock.closing ++ (block.closingSpace ++ '>' :: after), ?_, rfl, ?_⟩
  · rw [h]
    simp [ScriptBlock.text]
  · rw [Text.utf8Length_append]
    rfl

/-- **Which snippets there are**: one for each block in the language, at the place where it stands. -/
theorem mem_ofBlocks_iff {text language : String} (front : List Char)
    {entries : List (List Char × ScriptBlock)} {snippet : Snippet} :
    snippet ∈ ofBlocks text language (Text.utf8Length front) entries ↔
      ∃ earlier before block later, entries = earlier ++ (before, block) :: later ∧
        isIn language block = true ∧
        snippet = ofBlock text (Text.utf8Length (front ++ (joined earlier ++ before))) block := by
  -- the front grows by what stands before each block and by the block
  induction entries generalizing front with
  | nil => simp [ofBlocks]
  | cons entry entries ih =>
      obtain ⟨before, block⟩ := entry
      have hstart : Text.utf8Length front + Text.utf8Length before =
          Text.utf8Length (front ++ before) := (Text.utf8Length_append _ _).symm
      have hnext : Text.utf8Length (front ++ before) + Text.utf8Length block.text =
          Text.utf8Length (front ++ (before ++ block.text)) := by
        rw [← List.append_assoc, Text.utf8Length_append (front ++ before)]
      have hlater : snippet ∈
            ofBlocks text language (Text.utf8Length (front ++ (before ++ block.text))) entries ↔
          ∃ earlier before' block' later,
            (before, block) :: entries = (before, block) :: earlier ++ (before', block') :: later ∧
            isIn language block' = true ∧ snippet = ofBlock text (Text.utf8Length
              (front ++ (joined ((before, block) :: earlier) ++ before'))) block' := by
        rw [ih]
        simp [joined_cons]
      rw [ofBlocks, hstart, hnext]
      constructor
      · intro h
        split at h
        · next hin =>
            rcases List.mem_cons.1 h with rfl | h
            · exact ⟨[], before, block, entries, rfl, hin, by simp [joined]⟩
            · obtain ⟨earlier, rest⟩ := hlater.1 h
              exact ⟨_, rest⟩
        · obtain ⟨earlier, rest⟩ := hlater.1 h
          exact ⟨_, rest⟩
      · rintro ⟨earlier, before', block', later, hentries, hin, rfl⟩
        cases earlier with
        | nil =>
            obtain ⟨hentry, rfl⟩ := List.cons.inj hentries
            obtain ⟨rfl, rfl⟩ := Prod.mk.inj hentry
            simp [hin, joined]
        | cons entry earlier =>
            obtain ⟨rfl, rfl⟩ := List.cons.inj hentries
            have hmem := hlater.2 ⟨earlier, before', block', later, rfl, hin, rfl⟩
            split
            · exact List.mem_cons_of_mem _ hmem
            · exact hmem

/-- **A snippet is the dedented content of a block of the text.** -/
theorem exists_of_mem_ofText {text language : String} {snippet : Snippet}
    (h : snippet ∈ ofText text language) :
    ∃ front content back, snippet.StandsIn text front content back := by
  obtain ⟨earlier, before, block, later, hentries, -, rfl⟩ := (mem_ofBlocks_iff []).1 h
  have htext : text.toList = [] ++ (joined earlier ++ before) ++
      (block.text ++ (joined later ++ (splitBlocks text.toList).2)) := by
    conv_lhs => rw [← joined_splitBlocks text.toList, hentries]
    simp [joined]
  exact exists_standsIn_ofBlock htext

end Snippet

end Inlay
