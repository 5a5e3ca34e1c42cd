/-
**Which snippets a document holds.**

A document is scanned from left to right, and every block is taken whole, whatever its language, before the scan
goes on behind it.  So a tag inside a block opens nothing, a tag that is never closed is passed over, and
everything else is found: behind what was scanned, the next block starts at the first opening tag that has its
end and a closing tag somewhere behind it.  Those blocks whose first language attribute has the right value are
the snippets.

Main definitions:

* `Inlay.Text.FirstCut` — the first cut of a text at which something holds;
* `Inlay.Markup.FirstLang`, `Inlay.Markup.ModuleContext` — the attributes that matter, as written;
* `Inlay.Markup.Scanned` — how far a scan has come after some blocks;
* `Inlay.Snippet.Shows` — what a snippet tells of its block.

Main results:

* `Inlay.Markup.firstBlock_iff_firstCut` — the next block starts at the first opening tag that can open one;
* `Inlay.Markup.scanned_iff` — a scan stops between the blocks that a text is cut into;
* `Inlay.Markup.isIn_iff`, `Inlay.Markup.marksModule_iff` — reading attributes;
* `Inlay.Snippet.ofText_scanned` — **the snippets of a text are its blocks in the language**, in order, and none
  is missed.
-/
import Inlay.Proofs.Tags
import Mathlib.Data.List.Induction

set_option autoImplicit false

namespace Inlay

namespace Text

/-! ### First cuts -/

/-- The first cut of a text at which something holds of what is in front of it and behind it. -/
def FirstCut (P : List Char → List Char → Prop) (cs front back : List Char) : Prop :=
  FirstPlace P [] cs front back

variable {P : List Char → List Char → Prop} {cs front back : List Char} {c : Char}

theorem firstCut_nil_iff : FirstCut P [] front back ↔ P [] [] ∧ front = [] ∧ back = [] := by
  constructor
  · intro h
    obtain ⟨rfl, rfl⟩ : front = [] ∧ back = [] := by simpa using h.parts
    exact ⟨h.holds, rfl, rfl⟩
  · rintro ⟨hholds, rfl, rfl⟩
    exact ⟨rfl, hholds, fun _ _ _ _ => Nat.zero_le _⟩

/-- The first cut is at the start, or it is the first one behind the first character. -/
theorem firstCut_cons_iff :
    FirstCut P (c :: cs) front back ↔
      (P [] (c :: cs) ∧ front = [] ∧ back = c :: cs) ∨
        (¬ P [] (c :: cs) ∧ ∃ middle, front = c :: middle ∧
          FirstCut (fun middle back => P (c :: middle) back) cs middle back) := by
  constructor
  · intro h
    by_cases hhere : P [] (c :: cs)
    · have hlength := h.least [] (c :: cs) rfl hhere
      obtain rfl : front = [] := List.length_eq_zero_iff.1 (Nat.le_zero.1 hlength)
      exact Or.inl ⟨hhere, rfl, h.parts.symm⟩
    · right
      cases front with
      | nil =>
          obtain rfl : c :: cs = back := h.parts
          exact absurd h.holds hhere
      | cons d middle =>
          obtain ⟨rfl, hparts⟩ := List.cons.inj h.parts
          refine ⟨hhere, middle, rfl, hparts, h.holds, fun middle' back' hparts' hholds' => ?_⟩
          have hleast := h.least (c :: middle') back' (by rw [hparts', List.cons_append]) hholds'
          exact Nat.le_of_succ_le_succ hleast
  · rintro (⟨hhere, rfl, rfl⟩ | ⟨hhere, middle, rfl, h⟩)
    · exact ⟨rfl, hhere, fun _ _ _ _ => Nat.zero_le _⟩
    · refine ⟨by rw [h.parts, List.cons_append], h.holds, fun front' back' hparts' hholds' => ?_⟩
      cases front' with
      | nil =>
          obtain rfl : c :: cs = back' := hparts'
          exact absurd hholds' hhere
      | cons d middle' =>
          obtain ⟨rfl, htail⟩ := List.cons.inj hparts'
          exact Nat.succ_le_succ (h.least middle' back' htail hholds')

/-- Before a word character there is a boundary unless another one precedes it. -/
theorem isBoundary_of_isWord {before : Option Char} (hc : Unicode.isWord c = true) :
    isBoundary before (some c) = true ↔ before.any Unicode.isWord = false := by
  rw [isBoundary, Option.any_some, hc, Bool.bne_true, Bool.not_eq_true']

end Text

namespace Markup

open Text ScriptBlock

/-! ### The next block -/

/-- A block in its parts: the opening tag ends at its first `>`, and the content holds no closing tag. -/
structure ScriptBlock.WellFormed (block : ScriptBlock) : Prop where
  attributes : '>' ∉ block.attributes
  content : ¬ HoldsCloseTag block.content
  closingSpace : ∀ c ∈ block.closingSpace, Unicode.isSpace c = true

theorem ScriptBlock.Tidy.wellFormed {block : ScriptBlock} (h : block.Tidy) : block.WellFormed :=
  ⟨h.notMem_attributes, untilClose_eq_none_iff.1 h.content, h.closingSpace⟩

/-- A block in its parts, where a text opens a block, is the block that is found there. -/
theorem ScriptBlock.WellFormed.tidy {block : ScriptBlock} {after : List Char} (h : block.WellFormed)
    (hopens : OpensBlock (block.text ++ after)) : block.Tidy := by
  obtain ⟨found, tail, hfound⟩ := exists_blockAt_iff.2 hopens
  obtain ⟨rest, hrest, hhead⟩ := opensTag_iff.1 (opensTag_of_blockAt hfound)
  rw [text_append] at hrest
  rw [← List.append_cancel_left hrest, any_head?_append _ _ (by decide)] at hhead
  exact ⟨h.attributes, hhead, untilClose_eq_none_iff.2 h.content, h.closingSpace⟩

/-- **The next block starts at the first opening tag that can open one.** -/
theorem firstBlock_iff_firstCut {cs gap after : List Char} {block : ScriptBlock} :
    firstBlock cs = some (gap, block, after) ↔
      FirstCut (fun _ => OpensBlock) cs gap (block.text ++ after) ∧ block.WellFormed := by
  induction cs generalizing gap with
  | nil =>
      rw [firstCut_nil_iff]
      constructor
      · intro h
        cases h
      · rintro ⟨⟨⟨inner, body, hnil, -⟩, -⟩, -⟩
        cases hnil
  | cons c cs ih =>
      rw [firstCut_cons_iff, firstBlock]
      cases hblock : blockAt (c :: cs) with
      | some found =>
          obtain ⟨block', after'⟩ := found
          obtain ⟨htext, htidy⟩ := blockAt_eq_some_iff.1 hblock
          have hopens : OpensBlock (c :: cs) := exists_blockAt_iff.1 ⟨block', after', hblock⟩
          constructor
          · intro h
            obtain ⟨rfl, rfl, rfl⟩ : [] = gap ∧ block' = block ∧ after' = after := by simpa using h
            exact ⟨Or.inl ⟨hopens, rfl, htext.symm⟩, htidy.wellFormed⟩
          · rintro ⟨⟨-, rfl, hback⟩ | ⟨hnot, -⟩, hwell⟩
            · rw [← hback] at hblock hopens
              rw [blockAt_eq_some_iff.2 ⟨rfl, hwell.tidy hopens⟩] at hblock
              obtain ⟨rfl, rfl⟩ := Prod.mk.inj (Option.some_inj.1 hblock)
              rfl
            · exact absurd hopens hnot
      | none =>
          have hnot : ¬ OpensBlock (c :: cs) := by
            intro hopens
            obtain ⟨block', after', hsome⟩ := exists_blockAt_iff.2 hopens
            rw [hblock] at hsome
            cases hsome
          constructor
          · intro h
            obtain ⟨⟨middle, block', after'⟩, hrest, heq⟩ := Option.map_eq_some_iff.1 h
            obtain ⟨rfl, rfl, rfl⟩ : c :: middle = gap ∧ block' = block ∧ after' = after := by
              simpa using heq
            obtain ⟨hcut, hwell⟩ := ih.1 hrest
            exact ⟨Or.inr ⟨hnot, middle, rfl, hcut⟩, hwell⟩
          · rintro ⟨⟨hopens, -⟩ | ⟨-, middle, rfl, hcut⟩, hwell⟩
            · exact absurd hopens hnot
            · simp [ih.2 ⟨hcut, hwell⟩]

/-! ### Attributes that matter -/

/-- A text that starts with a language attribute with the given value. -/
def StartsLang (value cs : List Char) : Prop :=
  ∃ lead quote back, cs = lead ++ (value ++ quote :: back) ∧ IsLead lead ∧
    (∀ c ∈ value, isQuote c = false) ∧ isQuote quote = true

theorem startsLang_iff {value cs : List Char} :
    StartsLang value cs ↔ ∃ found, langAt cs = some found ∧ found.value = value := by
  constructor
  · rintro ⟨lead, quote, back, rfl, hlead, hvalue, hquote⟩
    refine ⟨⟨lead, value, quote :: back⟩, langAt_eq_some_iff.2 ⟨rfl, hlead, hvalue, ?_⟩, rfl⟩
    exact ⟨quote, back, rfl, hquote⟩
  · rintro ⟨⟨lead, value, after⟩, hfound, rfl⟩
    obtain ⟨hcs, hlead, hvalue, quote, back, hafter, hquote⟩ := langAt_eq_some_iff.1 hfound
    obtain rfl : after = quote :: back := hafter
    exact ⟨lead, quote, back, hcs, hlead, hvalue, hquote⟩

/-- Whether a language attribute starts at a cut: the cut is a word boundary, and an attribute stands behind
it. -/
def LangBegins (front back : List Char) : Prop :=
  isBoundary front.getLast? back.head? = true ∧ ∃ value, StartsLang value back

/-- The first language attribute among attributes has the given value. -/
def FirstLang (attributes value : List Char) : Prop :=
  ∃ front back, FirstCut LangBegins attributes front back ∧ StartsLang value back

theorem langBegins_iff {front back : List Char} :
    LangBegins front back ↔
      front.getLast?.any Unicode.isWord = false ∧ ∃ found, langAt back = some found := by
  have hfound : (∃ value, StartsLang value back) ↔ ∃ found, langAt back = some found := by
    simp only [startsLang_iff]
    exact ⟨fun ⟨_, found, h, _⟩ => ⟨found, h⟩, fun ⟨found, h⟩ => ⟨_, found, h, rfl⟩⟩
  rw [LangBegins, hfound]
  refine and_congr_left fun ⟨found, h⟩ => ?_
  -- an attribute starts with a letter
  obtain ⟨rfl, ⟨blank, space, quote, hlead, -⟩, -⟩ := langAt_eq_some_iff.1 h
  have hhead : found.text.head? = some 'l' := by
    rw [LangAttribute.text, hlead]
    rfl
  rw [hhead, isBoundary_of_isWord (by decide)]

theorem not_langBegins_iff {front back : List Char} :
    ¬ LangBegins front back ↔ front.getLast?.any Unicode.isWord = true ∨ langAt back = none := by
  rw [langBegins_iff, not_and_or, Bool.not_eq_false, ← Option.ne_none_iff_exists', not_not]

/-- The search finds the attribute at the first cut behind what was passed over. -/
theorem findLangFrom_value_iff (front : List Char) {cs value : List Char} :
    (∃ found, findLangFrom front.getLast? cs = some found ∧ found.value = value) ↔
      ∃ middle back, FirstCut (fun middle back => LangBegins (front ++ middle) back) cs middle back ∧
        StartsLang value back := by
  induction cs generalizing front with
  | nil =>
      constructor
      · rintro ⟨found, hfound, -⟩
        cases hfound
      · rintro ⟨middle, back, hcut, lead, quote, rest, hback, -⟩
        obtain ⟨-, -, rfl⟩ := firstCut_nil_iff.1 hcut
        simp at hback
  | cons c cs ih =>
      have hlast : (front ++ [c]).getLast? = some c := List.getLast?_concat
      have hcuts : (fun middle back => LangBegins (front ++ [c] ++ middle) back) =
          fun middle back => LangBegins (front ++ c :: middle) back := by simp
      constructor
      · rintro ⟨found, hfound, rfl⟩
        rcases findLangFrom_cons_iff.1 hfound with ⟨hword, hhere⟩ | ⟨hno, later, hlater, rfl⟩
        · have hbegins : LangBegins (front ++ []) (c :: cs) := by
            rw [List.append_nil, langBegins_iff]
            exact ⟨hword, found, hhere⟩
          exact ⟨[], c :: cs, firstCut_cons_iff.2 (Or.inl ⟨hbegins, rfl, rfl⟩),
            startsLang_iff.2 ⟨found, hhere, rfl⟩⟩
        · have hnot : ¬ LangBegins (front ++ []) (c :: cs) := by
            rw [List.append_nil, not_langBegins_iff]
            exact hno
          rw [← hlast] at hlater
          obtain ⟨middle, back, hcut, hvalue⟩ := (ih (front ++ [c])).1 ⟨later, hlater, rfl⟩
          rw [hcuts] at hcut
          exact ⟨c :: middle, back, firstCut_cons_iff.2 (Or.inr ⟨hnot, middle, rfl, hcut⟩), hvalue⟩
      · rintro ⟨middle, back, hcut, hvalue⟩
        rcases firstCut_cons_iff.1 hcut with ⟨hbegins, -, rfl⟩ | ⟨hnot, middle, rfl, htail⟩
        · rw [List.append_nil, langBegins_iff] at hbegins
          obtain ⟨found, hfound, rfl⟩ := startsLang_iff.1 hvalue
          exact ⟨found, findLangFrom_cons_iff.2 (Or.inl ⟨hbegins.1, hfound⟩), rfl⟩
        · rw [List.append_nil, not_langBegins_iff] at hnot
          rw [← hcuts] at htail
          obtain ⟨later, hlater, rfl⟩ := (ih (front ++ [c])).2 ⟨middle, back, htail, hvalue⟩
          rw [hlast] at hlater
          exact ⟨_, findLangFrom_cons_iff.2 (Or.inr ⟨hnot, later, hlater, rfl⟩), rfl⟩

/-- **A block is in a language if its first language attribute says so.** -/
theorem isIn_iff {language : String} {block : ScriptBlock} :
    Snippet.isIn language block = true ↔ FirstLang block.attributes language.toList := by
  have hsearch : (∃ found, findLang block.attributes = some found ∧ found.value = language.toList) ↔
      FirstLang block.attributes language.toList := findLangFrom_value_iff []
  rw [← hsearch, Snippet.isIn, Option.any_eq_true]
  simp only [beq_iff_eq]

/-- A text that starts with an attribute that marks a module. -/
def StartsModule (cs : List Char) : Prop :=
  ∃ blank space quote last back,
    cs = "context".toList ++ (blank ++ '=' :: (space ++ quote :: ("module".toList ++ last :: back))) ∧
      (∀ c ∈ blank, Unicode.isSpace c = true) ∧ (∀ c ∈ space, Unicode.isSpace c = true) ∧
      isQuote quote = true ∧ isQuote last = true

/-- An attribute somewhere marks a module. -/
def ModuleContext (attributes : List Char) : Prop :=
  ∃ front back, attributes = front ++ back ∧ isBoundary front.getLast? back.head? = true ∧
    StartsModule back

theorem StartsModule.isBoundary_iff {cs : List Char} (h : StartsModule cs) {before : Option Char} :
    isBoundary before cs.head? = true ↔ before.any Unicode.isWord = false := by
  obtain ⟨blank, space, quote, last, back, rfl, -⟩ := h
  exact isBoundary_of_isWord (by decide)

theorem moduleAt_iff {cs : List Char} : moduleAt cs = true ↔ StartsModule cs := by
  unfold moduleAt
  constructor
  · intro h
    split at h
    · next quote rest hrest =>
        obtain ⟨blank, space, rfl, hblank, hspace, -⟩ := afterEquals_eq_cons_iff.1 hrest
        rw [Bool.and_eq_true, Option.any_eq_true] at h
        obtain ⟨hquote, last, hlast, hclose⟩ := h
        obtain ⟨tail, htail, hhead⟩ := Option.bind_eq_some_iff.1 hlast
        obtain ⟨back, rfl⟩ := List.head?_eq_some_iff.1 hhead
        exact ⟨blank, space, quote, last, back, by rw [eq_append_of_dropFront htail], hblank, hspace,
          hquote, hclose⟩
    · cases h
  · rintro ⟨blank, space, quote, last, back, rfl, hblank, hspace, hquote, hlast⟩
    rw [afterEquals_eq_cons_iff.2 ⟨blank, space, rfl, hblank, hspace, isSpace_of_isQuote hquote⟩]
    dsimp only
    rw [hquote, dropFront_append, Option.bind_some, List.head?_cons, Option.any_some, hlast]
    rfl

/-- The search for an attribute that marks a module, behind what was passed over. -/
theorem marksModuleFrom_iff (front : List Char) {cs : List Char} :
    marksModuleFrom front.getLast? cs = true ↔
      ∃ middle back, cs = middle ++ back ∧ isBoundary (front ++ middle).getLast? back.head? = true ∧
        StartsModule back := by
  induction cs generalizing front with
  | nil =>
      constructor
      · intro h
        cases h
      · rintro ⟨middle, back, hnil, -, blank, space, quote, last, rest, rfl, -⟩
        simp at hnil
  | cons c cs ih =>
      have hlast : (front ++ [c]).getLast? = some c := List.getLast?_concat
      rw [marksModuleFrom, Bool.or_eq_true, Bool.and_eq_true, Bool.not_eq_true', moduleAt_iff, ← hlast,
        ih]
      constructor
      · rintro (⟨hword, hmodule⟩ | ⟨middle, back, rfl, hboundary, hmodule⟩)
        · refine ⟨[], c :: cs, rfl, ?_, hmodule⟩
          rw [List.append_nil]
          exact hmodule.isBoundary_iff.2 hword
        · exact ⟨c :: middle, back, rfl, by simpa using hboundary, hmodule⟩
      · rintro ⟨middle, back, hparts, hboundary, hmodule⟩
        cases middle with
        | nil =>
            obtain rfl : c :: cs = back := hparts
            rw [List.append_nil] at hboundary
            exact Or.inl ⟨hmodule.isBoundary_iff.1 hboundary, hmodule⟩
        | cons d middle =>
            obtain ⟨rfl, htail⟩ := List.cons.inj hparts
            exact Or.inr ⟨middle, back, htail, by simpa using hboundary, hmodule⟩

/-- Attributes mark a module if one of them says so. -/
theorem marksModule_iff {attributes : List Char} :
    marksModule attributes = true ↔ ModuleContext attributes :=
  marksModuleFrom_iff []

/-! ### Scanning -/

/-- How far a scan of a text has come after some blocks: what is scanned, and the rest.  Behind what is scanned
the next block starts at the first opening tag that can open one. -/
inductive Scanned (cs : List Char) : List Char → List Char → Prop
  | start : Scanned cs [] cs
  | block {done rest gap after : List Char} {block : ScriptBlock} :
      Scanned cs done rest → FirstCut (fun _ => OpensBlock) rest gap (block.text ++ after) →
      block.WellFormed → Scanned cs (done ++ (gap ++ block.text)) after

variable {cs done rest : List Char}

theorem Scanned.text_eq (h : Scanned cs done rest) : cs = done ++ rest := by
  induction h with
  | start => rfl
  | block _ hcut _ ih =>
      rw [ih, hcut.parts]
      simp

/-- A block that a text is cut into starts at the first opening tag behind the blocks before it. -/
theorem firstCut_of_splitBlocks {earlier later : List (List Char × ScriptBlock)} {gap tail : List Char}
    {block : ScriptBlock} (hsplit : splitBlocks cs = (earlier ++ (gap, block) :: later, tail)) :
    FirstCut (fun _ => OpensBlock) (joined ((gap, block) :: later) ++ tail) gap
        (block.text ++ (joined later ++ tail)) ∧ block.WellFormed := by
  obtain ⟨-, hblocks, -⟩ := splitBlocks_eq_iff.1 hsplit
  obtain ⟨hplain, htidy⟩ := hblocks (gap, block) (by simp)
  exact firstBlock_iff_firstCut.1 (firstBlock_joined_cons hplain htidy)

/-- What starts there is the next block that the text is cut into. -/
theorem splitBlocks_of_firstCut {earlier later : List (List Char × ScriptBlock)}
    {gap after tail : List Char} {block : ScriptBlock}
    (hsplit : splitBlocks cs = (earlier ++ later, tail))
    (hcut : FirstCut (fun _ => OpensBlock) (joined later ++ tail) gap (block.text ++ after))
    (hwell : block.WellFormed) :
    ∃ more, later = (gap, block) :: more ∧ after = joined more ++ tail := by
  have hfirst := firstBlock_iff_firstCut.2 ⟨hcut, hwell⟩
  cases later with
  | nil =>
      obtain ⟨-, -, htail⟩ := splitBlocks_eq_iff.1 hsplit
      cases htail.symm.trans hfirst
  | cons entry more =>
      obtain ⟨before, next⟩ := entry
      rw [firstBlock_iff_firstCut.2 (firstCut_of_splitBlocks hsplit)] at hfirst
      obtain ⟨rfl, rfl, rfl⟩ : before = gap ∧ next = block ∧ joined more ++ tail = after := by
        simpa using hfirst
      exact ⟨more, rfl, rfl⟩

theorem joined_concat (earlier : List (List Char × ScriptBlock)) (gap : List Char)
    (block : ScriptBlock) :
    joined (earlier ++ [(gap, block)]) = joined earlier ++ (gap ++ block.text) := by
  simp [joined]

/-- **A scan stops between the blocks that a text is cut into.** -/
theorem scanned_iff :
    Scanned cs done rest ↔ ∃ earlier later tail, splitBlocks cs = (earlier ++ later, tail) ∧
      done = joined earlier ∧ rest = joined later ++ tail := by
  constructor
  · intro h
    induction h with
    | start => exact ⟨[], _, _, rfl, rfl, (joined_splitBlocks cs).symm⟩
    | @block _ _ gap after block _ hcut hwell ih =>
        obtain ⟨earlier, later, tail, hsplit, rfl, rfl⟩ := ih
        obtain ⟨more, rfl, rfl⟩ := splitBlocks_of_firstCut hsplit hcut hwell
        exact ⟨earlier ++ [(gap, block)], more, tail, by simpa using hsplit,
          (joined_concat earlier gap block).symm, rfl⟩
  · rintro ⟨earlier, later, tail, hsplit, rfl, rfl⟩
    -- by induction on the blocks that are scanned, the last of them first
    induction earlier using List.reverseRecOn generalizing later with
    | nil =>
        obtain ⟨htext, -⟩ := splitBlocks_eq_iff.1 hsplit
        obtain rfl : cs = joined later ++ tail := htext
        exact Scanned.start
    | append_singleton earlier entry ih =>
        obtain ⟨gap, block⟩ := entry
        have hlater : splitBlocks cs = (earlier ++ (gap, block) :: later, tail) := by
          simpa using hsplit
        obtain ⟨hcut, hwell⟩ := firstCut_of_splitBlocks hlater
        rw [joined_concat]
        exact Scanned.block (ih _ hlater) hcut hwell

end Markup

/-! ### Snippets -/

namespace Snippet

open Text Markup

/-- What a snippet tells of its block, which stands behind a front of the text. -/
structure Shows (snippet : Snippet) (front : List Char) (block : ScriptBlock) : Prop where
  attributes_eq : snippet.attributes.toList = block.attributes
  block_eq : snippet.block = ⟨utf8Length front, utf8Length (front ++ block.text)⟩
  content_eq : snippet.content =
    ⟨utf8Length (front ++ block.openTag), utf8Length (front ++ (block.openTag ++ block.content))⟩
  kind_iff : snippet.kind = .moduleScript ↔ ModuleContext block.attributes

theorem shows_ofBlock (text : String) (front : List Char) (block : ScriptBlock) :
    (ofBlock text (utf8Length front) block).Shows front block := by
  refine ⟨String.toList_ofList, ?_, ?_, ?_⟩
  · simp [ofBlock]
  · simp [ofBlock, Nat.add_assoc]
  · rw [← marksModule_iff]
    cases hmodule : marksModule block.attributes <;> simp [ofBlock, hmodule]

/-- Snippets stand in the order of their blocks, one behind the other. -/
theorem pairwise_ofBlocks (text language : String) (offset : Nat)
    (entries : List (List Char × ScriptBlock)) :
    (∀ snippet ∈ ofBlocks text language offset entries, offset ≤ snippet.block.start) ∧
      (ofBlocks text language offset entries).Pairwise fun earlier later =>
        earlier.block.start < earlier.block.stop ∧ earlier.block.stop ≤ later.block.start := by
  induction entries generalizing offset with
  | nil => simp [ofBlocks]
  | cons entry entries ih =>
      obtain ⟨before, block⟩ := entry
      obtain ⟨hstart, hpairwise⟩ := ih (offset + utf8Length before + utf8Length block.text)
      have hlater : ∀ snippet ∈ ofBlocks text language
          (offset + utf8Length before + utf8Length block.text) entries,
          offset ≤ snippet.block.start := by
        intro snippet hsnippet
        have := hstart snippet hsnippet
        omega
      have hpos : 0 < utf8Length block.text := by
        obtain ⟨behind, hbehind⟩ := exists_text_append block []
        rw [List.append_nil] at hbehind
        rw [hbehind, utf8Length_cons]
        exact Nat.add_pos_left (Char.utf8Size_pos _) _
      rw [ofBlocks]
      split
      · constructor
        · rw [List.forall_mem_cons]
          exact ⟨Nat.le_add_right _ _, hlater⟩
        · refine List.pairwise_cons.2 ⟨fun snippet hsnippet => ⟨?_, hstart snippet hsnippet⟩, hpairwise⟩
          exact Nat.lt_add_of_pos_right hpos
      · exact ⟨hlater, hpairwise⟩

/-- **The snippets of a text are its blocks in the language.**  They stand in the text one behind the other.  Each
is a block that starts where the scan finds the next one, in its parts: the attributes hold no `>`, the content
holds no closing tag, and the first language attribute has the right value.  And from wherever the scan has come
after some blocks in any language, the first opening tag that can open a block does start the next one, which
is a snippet if its first language attribute has the right value. -/
theorem ofText_scanned (text language : String) :
    ((ofText text language).Pairwise fun earlier later =>
        earlier.block.start < earlier.block.stop ∧ earlier.block.stop ≤ later.block.start) ∧
      (∀ snippet ∈ ofText text language, ∃ done rest gap block after,
        Scanned text.toList done rest ∧
          FirstCut (fun _ => OpensBlock) rest gap (block.text ++ after) ∧
          text.toList = done ++ (gap ++ (block.text ++ after)) ∧ block.WellFormed ∧
          FirstLang block.attributes language.toList ∧ snippet.Shows (done ++ gap) block) ∧
      ∀ done rest, Scanned text.toList done rest →
        ∀ gap behind, FirstCut (fun _ => OpensBlock) rest gap behind →
          ∃ block after, behind = block.text ++ after ∧ block.WellFormed ∧
            Scanned text.toList (done ++ (gap ++ block.text)) after ∧
            (FirstLang block.attributes language.toList →
              ∃ snippet ∈ ofText text language, snippet.Shows (done ++ gap) block) := by
  have hmem : ∀ snippet, snippet ∈ ofText text language ↔
      ∃ earlier before block later,
        (splitBlocks text.toList).1 = earlier ++ (before, block) :: later ∧
        isIn language block = true ∧
        snippet = ofBlock text (utf8Length (joined earlier ++ before)) block :=
    fun snippet => mem_ofBlocks_iff []
  refine ⟨(pairwise_ofBlocks text language 0 _).2, ?_, ?_⟩
  · intro snippet hsnippet
    obtain ⟨earlier, gap, block, later, hentries, hin, rfl⟩ := (hmem snippet).1 hsnippet
    have hsplit : splitBlocks text.toList =
        (earlier ++ (gap, block) :: later, (splitBlocks text.toList).2) := Prod.ext hentries rfl
    have hscanned := scanned_iff.2 ⟨earlier, _, _, hsplit, rfl, rfl⟩
    obtain ⟨hcut, hwell⟩ := firstCut_of_splitBlocks hsplit
    exact ⟨joined earlier, _, gap, block, _, hscanned, hcut,
      hscanned.text_eq.trans (congrArg (joined earlier ++ ·) hcut.parts), hwell, isIn_iff.1 hin,
      shows_ofBlock _ _ _⟩
  · intro done rest hscanned gap behind hcut
    obtain ⟨block, after, hblock⟩ := exists_blockAt_iff.2 hcut.holds
    obtain ⟨rfl, htidy⟩ := blockAt_eq_some_iff.1 hblock
    have hwell := htidy.wellFormed
    refine ⟨block, after, rfl, hwell, Scanned.block hscanned hcut hwell, fun hlang => ?_⟩
    obtain ⟨earlier, later, tail, hsplit, rfl, rfl⟩ := scanned_iff.1 hscanned
    obtain ⟨more, rfl, rfl⟩ := splitBlocks_of_firstCut hsplit hcut hwell
    have hentries : (splitBlocks text.toList).1 = earlier ++ (gap, block) :: more := by rw [hsplit]
    exact ⟨_, (hmem _).2 ⟨earlier, gap, block, more, hentries, isIn_iff.2 hlang, rfl⟩,
      shows_ofBlock _ _ _⟩

/-- A tag in the content of a block in another language, one that goes on as another name, a spaced closing tag,
a second language attribute, and a tag that is never closed. -/
example : (ofText ("<script>'<script lang=\"civet\">'</script><scripts><script\ncontext = 'module' lang='civet' "
    ++ "lang='ts'>a</script\n>é<script lang='ts' lang='civet'>b</script><script lang='civet'>c") "civet").map
      (fun snippet => (snippet.kind, snippet.block, snippet.content)) =
    [(.moduleScript, ⟨49, 110⟩, ⟨99, 100⟩)] := by
  decide +kernel

end Snippet

end Inlay
