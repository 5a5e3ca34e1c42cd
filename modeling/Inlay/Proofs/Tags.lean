/-
**Tags and blocks.**

A script block is found where an opening tag is followed by the end of that tag and by a closing tag.  Both tags
start with the only `<` they hold, so no tag reaches over the start of a block, and whether a block is found
depends on the text before it and on the block alone.

Main definitions:

* `Inlay.Markup.HoldsCloseTag` — a text with a closing tag somewhere in it;
* `Inlay.Markup.OpensBlock` — a text that starts with an opening tag, with a closing tag behind it;
* `Inlay.Markup.ScriptBlock.Tidy` — a block that ends where its first closing tag ends;
* `Inlay.Markup.opensTag` — whether a text starts with an opening tag, finished or not;
* `Inlay.Markup.Plain` — a text in which no such tag starts.

Main results:

* `Inlay.Markup.untilClose_eq_some_iff`, `Inlay.Markup.untilClose_eq_none_iff` — where the first closing tag is;
* `Inlay.Markup.blockAt_eq_some_iff`, `Inlay.Markup.exists_blockAt_iff` — which texts start with a block;
* `Inlay.Markup.firstBlock_eq_some_iff` — which block of a text is the first;
* `Inlay.Markup.splitBlocks_eq_iff` — **the blocks of a text are those it is made up of**.
-/
import Inlay.Proofs.Attributes
import Inlay.Proofs.Blocks

set_option autoImplicit false

namespace Inlay

open Text

namespace Markup

open ScriptBlock

/-! ### Closing tags -/

theorem closeTagAt_eq_some_iff {cs space after : List Char} :
    closeTagAt cs = some (space, after) ↔
      cs = closing ++ (space ++ '>' :: after) ∧ ∀ c ∈ space, Unicode.isSpace c = true := by
  constructor
  · intro h
    refine ⟨eq_of_closeTagAt h, ?_⟩
    unfold closeTagAt at h
    split at h
    · simp at h
    · split at h
      · obtain ⟨rfl, -⟩ := Prod.mk.inj (Option.some_inj.1 h)
        exact fun c hc => List.mem_takeWhile_imp hc
      · simp at h
  · rintro ⟨rfl, hspace⟩
    have hdrop : (space ++ '>' :: after).dropWhile Unicode.isSpace = '>' :: after :=
      dropWhile_eq_cons_iff.2 ⟨space, rfl, hspace, by decide⟩
    unfold closeTagAt
    simp only [dropFront_append, hdrop]
    rw [takeWhile_append_cons hspace (by decide)]

/-- A closing tag does not reach over a `<`. -/
theorem closeTagAt_append {back behind : List Char} (hback : back ≠ [])
    (h : closeTagAt back = none) : closeTagAt (back ++ '<' :: behind) = none := by
  rw [Option.eq_none_iff_forall_ne_some] at h ⊢
  rintro ⟨space, after⟩ hclose
  obtain ⟨htext, hspace⟩ := closeTagAt_eq_some_iff.1 hclose
  have hword : '<' ∉ (closing ++ (space ++ ['>'])).tail := by
    intro hmem
    have hrest : '<' ∈ "/script".toList ++ (space ++ ['>']) := hmem
    simp only [List.mem_append, List.mem_singleton] at hrest
    rcases hrest with hrest | hrest | hrest
    · revert hrest
      decide
    · have hblank := hspace _ hrest
      revert hblank
      decide
    · revert hrest
      decide
  have htag : back ++ '<' :: behind = closing ++ (space ++ ['>']) ++ after := by
    rw [htext]
    simp
  obtain ⟨middle, hmiddle, -⟩ := exists_of_append_cons_eq hback hword htag
  refine h (space, middle) (closeTagAt_eq_some_iff.2 ⟨?_, hspace⟩)
  rw [hmiddle]
  simp

theorem untilClose_append {content behind : List Char} (h : untilClose content = none) :
    untilClose (content ++ '<' :: behind) =
      (untilClose ('<' :: behind)).map fun found => (content ++ found.1, found.2) := by
  induction content with
  | nil => simp
  | cons c content ih =>
      unfold untilClose at h
      split at h
      · simp at h
      · next hclose =>
          have hrest : untilClose content = none := Option.map_eq_none_iff.1 h
          have hhere : closeTagAt (c :: (content ++ '<' :: behind)) = none :=
            closeTagAt_append (List.cons_ne_nil c content) hclose
          rw [List.cons_append, untilClose, hhere]
          simp only [ih hrest, Option.map_map]
          rfl

theorem untilClose_eq_none {cs content space after : List Char}
    (h : untilClose cs = some (content, space, after)) : untilClose content = none := by
  induction cs generalizing content with
  | nil => simp [untilClose] at h
  | cons c cs ih =>
      unfold untilClose at h
      split at h
      · obtain ⟨rfl, -⟩ := Prod.mk.inj (Option.some_inj.1 h)
        rfl
      · next hclose =>
          obtain ⟨⟨front, space', after'⟩, hrest, heq⟩ := Option.map_eq_some_iff.1 h
          obtain ⟨rfl, rfl, rfl⟩ : c :: front = content ∧ space' = space ∧ after' = after := by
            simpa using heq
          -- a closing tag in the content would also be one in the text
          have hhere : closeTagAt (c :: front) = none := by
            rw [Option.eq_none_iff_forall_ne_some]
            rintro ⟨blank, middle⟩ hfront
            obtain ⟨htext, hblank⟩ := closeTagAt_eq_some_iff.1 hfront
            have hlonger : closeTagAt (c :: cs) =
                some (blank, middle ++ (closing ++ (space' ++ '>' :: after'))) := by
              refine closeTagAt_eq_some_iff.2 ⟨?_, hblank⟩
              rw [eq_of_untilClose hrest, ← List.cons_append, htext]
              simp
            rw [hclose] at hlonger
            cases hlonger
          rw [untilClose, hhere]
          simp [ih hrest]

/-- **Where the first closing tag stands.** -/
theorem untilClose_eq_some_iff {cs content space after : List Char} :
    untilClose cs = some (content, space, after) ↔
      cs = content ++ (closing ++ (space ++ '>' :: after)) ∧ untilClose content = none ∧
        ∀ c ∈ space, Unicode.isSpace c = true := by
  have hclosing : ∀ rest, closing ++ rest = '<' :: ("/script".toList ++ rest) := fun _ => rfl
  constructor
  · intro h
    have htext := eq_of_untilClose h
    have hnone := untilClose_eq_none h
    refine ⟨htext, hnone, ?_⟩
    rw [htext, hclosing, untilClose_append hnone] at h
    obtain ⟨⟨front, rest⟩, hfound, heq⟩ := Option.map_eq_some_iff.1 h
    obtain ⟨hfront, rfl⟩ := Prod.mk.inj heq
    obtain rfl : front = [] := by simpa using hfront
    unfold untilClose at hfound
    split at hfound
    · next hclose =>
        obtain ⟨-, hpair⟩ := Prod.mk.inj (Option.some_inj.1 hfound)
        obtain ⟨rfl, rfl⟩ := Prod.mk.inj hpair
        exact (closeTagAt_eq_some_iff.1 hclose).2
    · simp at hfound
  · rintro ⟨rfl, hnone, hspace⟩
    have hclose : closeTagAt (closing ++ (space ++ '>' :: after)) = some (space, after) :=
      closeTagAt_eq_some_iff.2 ⟨rfl, hspace⟩
    rw [hclosing] at hclose ⊢
    rw [untilClose_append hnone, untilClose, hclose]
    simp

/-- A closing tag is found whatever stands before it. -/
theorem isSome_untilClose_append (front : List Char) {cs : List Char}
    (h : (untilClose cs).isSome = true) : (untilClose (front ++ cs)).isSome = true := by
  induction front with
  | nil => exact h
  | cons c front ih =>
      rw [List.cons_append, untilClose]
      split
      · rfl
      · rw [Option.isSome_map, ih]

/-- A text with a closing tag somewhere in it. -/
def HoldsCloseTag (cs : List Char) : Prop :=
  ∃ front space back, cs = front ++ (closing ++ (space ++ '>' :: back)) ∧
    ∀ c ∈ space, Unicode.isSpace c = true

theorem HoldsCloseTag.append {cs : List Char} (h : HoldsCloseTag cs) (front : List Char) :
    HoldsCloseTag (front ++ cs) := by
  obtain ⟨middle, space, back, rfl, hspace⟩ := h
  exact ⟨front ++ middle, space, back, by simp, hspace⟩

/-- No closing tag is found exactly if there is none. -/
theorem untilClose_eq_none_iff {cs : List Char} : untilClose cs = none ↔ ¬ HoldsCloseTag cs := by
  constructor
  · rintro h ⟨front, space, back, rfl, hspace⟩
    have hclose : untilClose (closing ++ (space ++ '>' :: back)) = some ([], space, back) :=
      untilClose_eq_some_iff.2 ⟨rfl, rfl, hspace⟩
    have hsome := isSome_untilClose_append front (Option.isSome_of_eq_some hclose)
    rw [h] at hsome
    cases hsome
  · intro h
    rw [Option.eq_none_iff_forall_ne_some]
    rintro ⟨content, space, after⟩ hclose
    obtain ⟨htext, -, hspace⟩ := untilClose_eq_some_iff.1 hclose
    exact h ⟨content, space, after, htext, hspace⟩

/-! ### Blocks at the start of a text -/

/-- A block that ends where its first closing tag ends, and whose opening tag holds no `>` and does not go on
as another name. -/
structure ScriptBlock.Tidy (block : ScriptBlock) : Prop where
  notMem_attributes : '>' ∉ block.attributes
  head_attributes : block.attributes.head?.any Unicode.isWord = false
  content : untilClose block.content = none
  closingSpace : ∀ c ∈ block.closingSpace, Unicode.isSpace c = true

theorem text_append (block : ScriptBlock) (after : List Char) :
    block.text ++ after = opening ++ (block.attributes ++ '>' ::
      (block.content ++ (closing ++ (block.closingSpace ++ '>' :: after)))) := by
  simp [ScriptBlock.text, ScriptBlock.openTag]

/-- A block starts with a `<`. -/
theorem exists_text_append (block : ScriptBlock) (after : List Char) :
    ∃ behind, block.text ++ after = '<' :: behind :=
  ⟨_, text_append block after⟩

/-- The head of attributes is that of what stands behind the name of the tag. -/
theorem any_head?_append (attributes behind : List Char) {c : Char} (hc : Unicode.isWord c = false) :
    (attributes ++ c :: behind).head?.any Unicode.isWord =
      attributes.head?.any Unicode.isWord := by
  cases attributes with
  | nil => simp [hc]
  | cons a attributes => rfl

/-- **Which texts start with a block.** -/
theorem blockAt_eq_some_iff {cs after : List Char} {block : ScriptBlock} :
    blockAt cs = some (block, after) ↔ cs = block.text ++ after ∧ block.Tidy := by
  constructor
  · intro h
    refine ⟨eq_of_blockAt h, ?_⟩
    unfold blockAt at h
    split at h
    · simp at h
    · next rest hrest =>
        split at h
        · simp at h
        · next hhead =>
            split at h
            · next body hbody =>
                obtain ⟨⟨content, space, tail⟩, hclose, heq⟩ := Option.map_eq_some_iff.1 h
                obtain ⟨rfl, rfl⟩ : _ = block ∧ tail = after := by simpa using heq
                obtain ⟨-, hnone, hspace⟩ := untilClose_eq_some_iff.1 hclose
                have htag : rest = rest.takeWhile (· != '>') ++ '>' :: body := by
                  rw [← hbody, List.takeWhile_append_dropWhile]
                refine ⟨fun hmem => ?_, ?_, hnone, hspace⟩
                · have hne := List.mem_takeWhile_imp hmem
                  revert hne
                  decide
                · rw [htag, any_head?_append _ _ (by decide)] at hhead
                  exact Bool.eq_false_iff.2 hhead
            · simp at h
  · rintro ⟨rfl, htidy⟩
    have hplain : ∀ c ∈ block.attributes, (c != '>') = true := by
      intro c hc
      exact bne_iff_ne.2 fun heq => htidy.notMem_attributes (heq ▸ hc)
    have hclose : untilClose (block.content ++ (closing ++ (block.closingSpace ++ '>' :: after))) =
        some (block.content, block.closingSpace, after) :=
      untilClose_eq_some_iff.2 ⟨rfl, htidy.content, htidy.closingSpace⟩
    have hbody : (block.attributes ++ '>' ::
        (block.content ++ (closing ++ (block.closingSpace ++ '>' :: after)))).dropWhile (· != '>') =
        '>' :: (block.content ++ (closing ++ (block.closingSpace ++ '>' :: after))) :=
      dropWhile_eq_cons_iff.2 ⟨_, rfl, hplain, by decide⟩
    rw [text_append, blockAt]
    simp only [dropFront_append, any_head?_append _ _ (by decide : Unicode.isWord '>' = false),
      htidy.head_attributes, hbody, hclose, takeWhile_append_cons hplain (by decide : ('>' != '>') = false)]
    simp

/-- A text that starts with an opening tag up to a word boundary, with the end of that tag and a closing tag
somewhere behind it. -/
def OpensBlock (cs : List Char) : Prop :=
  ∃ inner body, cs = opening ++ (inner ++ '>' :: body) ∧
    isBoundary opening.getLast? (inner ++ '>' :: body).head? = true ∧ HoldsCloseTag body

/-- The name of the tag ends in a word character, so there is a boundary behind it unless one follows. -/
theorem isBoundary_opening {next : Option Char} :
    isBoundary opening.getLast? next = true ↔ next.any Unicode.isWord = false := by
  have hlast : opening.getLast?.any Unicode.isWord = true := by decide
  rw [isBoundary, hlast, Bool.true_bne, Bool.not_eq_true']

/-- **A text starts with a block exactly if it opens one**: the tag ends at its first `>`, and the block at its
first closing tag. -/
theorem exists_blockAt_iff {cs : List Char} :
    (∃ block after, blockAt cs = some (block, after)) ↔ OpensBlock cs := by
  constructor
  · rintro ⟨block, after, hblock⟩
    obtain ⟨rfl, htidy⟩ := blockAt_eq_some_iff.1 hblock
    refine ⟨block.attributes, _, text_append block after, isBoundary_opening.2 ?_, ?_⟩
    · rw [any_head?_append _ _ (by decide), htidy.head_attributes]
    · exact ⟨block.content, block.closingSpace, after, rfl, htidy.closingSpace⟩
  · rintro ⟨inner, body, rfl, hboundary, hclose⟩
    have hhead := isBoundary_opening.1 hboundary
    have hmem : '>' ∈ inner ++ ['>'] := by simp
    obtain ⟨attributes, middle, hfirst, hplain⟩ := List.eq_append_cons_of_mem hmem
    have hinner : inner ++ '>' :: body = attributes ++ '>' :: (middle ++ body) := by
      rw [← List.singleton_append, ← List.append_assoc, hfirst]
      simp
    have hsome : untilClose (middle ++ body) ≠ none := fun hnone =>
      untilClose_eq_none_iff.1 hnone (hclose.append middle)
    obtain ⟨⟨content, space, after⟩, hfound⟩ := Option.ne_none_iff_exists'.1 hsome
    obtain ⟨hbody, hnone, hspace⟩ := untilClose_eq_some_iff.1 hfound
    rw [hinner, any_head?_append _ _ (by decide)] at hhead
    refine ⟨⟨attributes, content, space⟩, after, blockAt_eq_some_iff.2 ⟨?_, hplain, hhead, hnone, hspace⟩⟩
    rw [hinner, hbody, text_append]

/-! ### Text before a block -/

/-- Whether a text starts with an opening tag, finished or not. -/
def opensTag (cs : List Char) : Bool :=
  (dropFront opening cs).any fun rest => !rest.head?.any Unicode.isWord

theorem opensTag_iff {cs : List Char} :
    opensTag cs = true ↔
      ∃ rest, cs = opening ++ rest ∧ rest.head?.any Unicode.isWord = false := by
  unfold opensTag
  constructor
  · intro h
    obtain ⟨rest, hrest, hhead⟩ := (Option.any_eq_true _ _).1 h
    exact ⟨rest, eq_append_of_dropFront hrest, by simpa using hhead⟩
  · rintro ⟨rest, rfl, hhead⟩
    rw [dropFront_append]
    simp [hhead]

/-- An opening tag does not reach over a `<`. -/
theorem opensTag_append {back : List Char} (hback : back ≠ []) (behind : List Char) :
    opensTag (back ++ '<' :: behind) = opensTag back := by
  rw [Bool.eq_iff_iff, opensTag_iff, opensTag_iff]
  constructor
  · rintro ⟨rest, htext, hhead⟩
    obtain ⟨middle, rfl, rfl⟩ := exists_of_append_cons_eq hback (by decide) htext
    exact ⟨middle, rfl, by rwa [any_head?_append _ _ (by decide)] at hhead⟩
  · rintro ⟨middle, rfl, hhead⟩
    exact ⟨middle ++ '<' :: behind, by simp, by rwa [any_head?_append _ _ (by decide)]⟩

theorem opensTag_of_blockAt {cs after : List Char} {block : ScriptBlock}
    (h : blockAt cs = some (block, after)) : opensTag cs = true := by
  obtain ⟨rfl, htidy⟩ := blockAt_eq_some_iff.1 h
  refine opensTag_iff.2 ⟨_, text_append block after, ?_⟩
  rw [any_head?_append _ _ (by decide), htidy.head_attributes]

/-- Before a block every opening tag makes a block: its `>` is at the latest that of the block, and its
closing tag at the latest that of the block. -/
theorem isSome_blockAt_of_opensTag {back after : List Char} {block : ScriptBlock} (htidy : block.Tidy)
    (h : opensTag back = true) : (blockAt (back ++ (block.text ++ after))).isSome = true := by
  obtain ⟨rest, rfl, hhead⟩ := opensTag_iff.1 h
  have hopens : OpensBlock (opening ++ rest ++ (block.text ++ after)) := by
    refine ⟨rest ++ (opening ++ block.attributes),
      block.content ++ (closing ++ (block.closingSpace ++ '>' :: after)), ?_, isBoundary_opening.2 ?_, ?_⟩
    · rw [text_append]
      simp
    · rw [List.append_assoc]
      exact (any_head?_append rest _ (by decide)).trans hhead
    · exact ⟨block.content, block.closingSpace, after, rfl, htidy.closingSpace⟩
  obtain ⟨found, tail, hfound⟩ := exists_blockAt_iff.2 hopens
  rw [hfound]
  rfl

/-- A text in which no opening tag starts. -/
def Plain (cs : List Char) : Prop :=
  ∀ back, back <:+ cs → opensTag back = false

theorem plain_nil : Plain [] := by
  intro back hback
  rw [List.suffix_nil.1 hback]
  rfl

theorem plain_cons_iff {c : Char} {cs : List Char} :
    Plain (c :: cs) ↔ opensTag (c :: cs) = false ∧ Plain cs := by
  constructor
  · intro h
    exact ⟨h _ (List.suffix_refl _), fun back hback => h back (hback.trans (List.suffix_cons c cs))⟩
  · rintro ⟨hhere, hrest⟩ back hback
    rcases List.suffix_cons_iff.1 hback with rfl | hback
    · exact hhere
    · exact hrest back hback

/-- Before a block, what starts no opening tag is what starts no block. -/
theorem blockAt_eq_none_iff {back after : List Char} {block : ScriptBlock} (hback : back ≠ [])
    (htidy : block.Tidy) :
    blockAt (back ++ (block.text ++ after)) = none ↔ opensTag back = false := by
  constructor
  · intro h
    by_contra hopens
    have hsome : (blockAt (back ++ (block.text ++ after))).isSome = true :=
      isSome_blockAt_of_opensTag htidy (Bool.not_eq_false _ ▸ hopens)
    rw [h] at hsome
    cases hsome
  · intro h
    rw [Option.eq_none_iff_forall_ne_some]
    rintro ⟨found, rest⟩ hfound
    have hopens := opensTag_of_blockAt hfound
    obtain ⟨behind, hbehind⟩ := exists_text_append block after
    rw [hbehind, opensTag_append hback, h] at hopens
    cases hopens

/-- **Which block of a text is the first.** -/
theorem firstBlock_eq_some_iff {cs before after : List Char} {block : ScriptBlock} :
    firstBlock cs = some (before, block, after) ↔
      cs = before ++ (block.text ++ after) ∧ Plain before ∧ block.Tidy := by
  constructor
  · intro h
    refine ⟨eq_of_firstBlock h, ?_⟩
    induction cs generalizing before with
    | nil => simp [firstBlock] at h
    | cons c cs ih =>
        have htext := eq_of_firstBlock h
        unfold firstBlock at h
        split at h
        · next hblock =>
            obtain ⟨rfl, rfl, rfl⟩ : [] = before ∧ _ = block ∧ _ = after := by simpa using h
            exact ⟨plain_nil, (blockAt_eq_some_iff.1 hblock).2⟩
        · next hnone =>
            obtain ⟨⟨front, block', after'⟩, hrest, heq⟩ := Option.map_eq_some_iff.1 h
            obtain ⟨rfl, rfl, rfl⟩ : c :: front = before ∧ block' = block ∧ after' = after := by
              simpa using heq
            obtain ⟨hplain, htidy⟩ := ih hrest
            rw [htext, blockAt_eq_none_iff (List.cons_ne_nil c front) htidy] at hnone
            exact ⟨plain_cons_iff.2 ⟨hnone, hplain⟩, htidy⟩
  · rintro ⟨rfl, hplain, htidy⟩
    induction before with
    | nil =>
        have hblock : blockAt (block.text ++ after) = some (block, after) :=
          blockAt_eq_some_iff.2 ⟨rfl, htidy⟩
        obtain ⟨behind, hbehind⟩ := exists_text_append block after
        rw [hbehind] at hblock
        rw [List.nil_append, hbehind, firstBlock, hblock]
    | cons c before ih =>
        obtain ⟨hhere, hrest⟩ := plain_cons_iff.1 hplain
        have hnone : blockAt (c :: (before ++ (block.text ++ after))) = none :=
          (blockAt_eq_none_iff (List.cons_ne_nil c before) htidy).2 hhere
        rw [List.cons_append, firstBlock, hnone]
        simp [ih hrest]

/-! ### All blocks -/

theorem length_lt_of_firstBlock {cs before after : List Char} {block : ScriptBlock}
    (h : firstBlock cs = some (before, block, after)) : after.length < cs.length := by
  rw [eq_of_firstBlock h, text_append]
  simp only [List.length_append, List.length_cons]
  omega

/-- The first block of a text that is made up of blocks. -/
theorem firstBlock_joined_cons {before tail : List Char} {block : ScriptBlock}
    {blocks : List (List Char × ScriptBlock)} (hplain : Plain before) (htidy : block.Tidy) :
    firstBlock (joined ((before, block) :: blocks) ++ tail) =
      some (before, block, joined blocks ++ tail) := by
  rw [joined_cons, List.append_assoc, List.append_assoc]
  exact firstBlock_eq_some_iff.2 ⟨rfl, hplain, htidy⟩

theorem splitBlocksUpTo_eq_iff {count : Nat} {cs tail : List Char}
    {blocks : List (List Char × ScriptBlock)} (hcount : cs.length ≤ count) :
    splitBlocksUpTo count cs = (blocks, tail) ↔
      cs = joined blocks ++ tail ∧ (∀ entry ∈ blocks, Plain entry.1 ∧ entry.2.Tidy) ∧
        firstBlock tail = none := by
  constructor
  · intro h
    have hjoined := joined_splitBlocksUpTo count cs
    rw [h] at hjoined
    refine ⟨hjoined.symm, ?_⟩
    -- every block takes characters, so the count does not run out
    induction count generalizing cs blocks with
    | zero =>
        obtain rfl := List.length_eq_zero_iff.1 (Nat.le_zero.1 hcount)
        obtain ⟨rfl, rfl⟩ := Prod.mk.inj h
        exact ⟨by simp, rfl⟩
    | succ count ih =>
        unfold splitBlocksUpTo at h
        split at h
        · next hnone =>
            obtain ⟨rfl, rfl⟩ := Prod.mk.inj h
            exact ⟨by simp, hnone⟩
        · next before block after hfirst =>
            obtain ⟨rfl, rfl⟩ := Prod.mk.inj h
            have hlength := length_lt_of_firstBlock hfirst
            obtain ⟨hblocks, htail⟩ := ih (Nat.le_of_lt_succ (hlength.trans_le hcount)) rfl
              (joined_splitBlocksUpTo count after)
            rw [List.forall_mem_cons]
            exact ⟨⟨(firstBlock_eq_some_iff.1 hfirst).2, hblocks⟩, htail⟩
  · rintro ⟨rfl, hblocks, htail⟩
    induction blocks generalizing count with
    | nil =>
        cases count with
        | zero => rfl
        | succ count => simp [joined, splitBlocksUpTo, htail]
    | cons entry blocks ih =>
        obtain ⟨before, block⟩ := entry
        rw [List.forall_mem_cons] at hblocks
        obtain ⟨⟨hplain, htidy⟩, hblocks⟩ := hblocks
        have hfirst : firstBlock (joined ((before, block) :: blocks) ++ tail) =
            some (before, block, joined blocks ++ tail) := firstBlock_joined_cons hplain htidy
        have hlength := (length_lt_of_firstBlock hfirst).trans_le hcount
        cases count with
        | zero => exact absurd hlength (Nat.not_lt_zero _)
        | succ count =>
            rw [splitBlocksUpTo, hfirst]
            simp only [ih (Nat.le_of_lt_succ hlength) hblocks]

/-- **The blocks of a text are those it is made up of.** -/
theorem splitBlocks_eq_iff {cs tail : List Char} {blocks : List (List Char × ScriptBlock)} :
    splitBlocks cs = (blocks, tail) ↔
      cs = joined blocks ++ tail ∧ (∀ entry ∈ blocks, Plain entry.1 ∧ entry.2.Tidy) ∧
        firstBlock tail = none :=
  splitBlocksUpTo_eq_iff (Nat.le_refl _)

end Markup

end Inlay
