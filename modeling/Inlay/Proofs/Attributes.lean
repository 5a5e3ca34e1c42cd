/-
**Language attributes.**

The attributes of a tag are searched for the first language attribute, which decides whether its block is a
snippet, and whose value is exchanged when the snippet was compiled.  Reading the exchanged attributes again
must find the same attribute with the new value.  It does, as long as the value holds no quote: an attribute
further left would need a quote before the value, and there it would have been found at once.

Main definitions:

* `Inlay.Markup.LangAttribute.text` — the attributes in which an attribute was found;
* `Inlay.Markup.IsLead` — what an attribute starts with: its name, an equals sign and a quote.

Main results:

* `Inlay.Markup.langAt_eq_some_iff` — **which texts start with a language attribute**;
* `Inlay.Markup.eq_text_of_findLang` — an attribute that was found, with what stands around it;
* `Inlay.Markup.findLang_replaceLang` — **exchanging the value of the first language attribute leaves it the
  first one**.
-/
import Inlay.Proofs.Words
import Inlay.Markup.Script

set_option autoImplicit false

namespace Inlay

namespace Markup

open Text

/-! ### One attribute -/

theorem isSpace_of_isQuote {c : Char} (h : isQuote c = true) : Unicode.isSpace c = false := by
  unfold isQuote at h
  rcases Bool.or_eq_true_iff.1 h with h | h <;> rw [eq_of_beq h] <;> decide

/-- What stands behind a name and an equals sign, if it is not blank. -/
theorem afterEquals_eq_cons_iff {name cs rest : List Char} {c : Char} :
    afterEquals name cs = some (c :: rest) ↔
      ∃ blank space, cs = name ++ (blank ++ '=' :: (space ++ c :: rest)) ∧
        (∀ d ∈ blank, Unicode.isSpace d = true) ∧ (∀ d ∈ space, Unicode.isSpace d = true) ∧
        Unicode.isSpace c = false := by
  unfold afterEquals skipSpace
  constructor
  · intro h
    split at h
    · simp at h
    · next tail htail =>
        split at h
        · next value hvalue =>
            obtain ⟨blank, rfl, hblank, _⟩ := dropWhile_eq_cons_iff.1 hvalue
            obtain ⟨space, rfl, hspace, hc⟩ := dropWhile_eq_cons_iff.1 (Option.some_inj.1 h)
            exact ⟨blank, space, eq_append_of_dropFront htail, hblank, hspace, hc⟩
        · simp at h
  · rintro ⟨blank, space, rfl, hblank, hspace, hc⟩
    have hequals : (blank ++ '=' :: (space ++ c :: rest)).dropWhile Unicode.isSpace =
        '=' :: (space ++ c :: rest) := dropWhile_eq_cons_iff.2 ⟨blank, rfl, hblank, by decide⟩
    rw [dropFront_append]
    simp only [hequals]
    rw [dropWhile_eq_cons_iff.2 ⟨space, rfl, hspace, hc⟩]

/-- What a language attribute starts with: its name, an equals sign and a quote, perhaps with white space
between them. -/
def IsLead (lead : List Char) : Prop :=
  ∃ blank space quote, lead = "lang".toList ++ (blank ++ '=' :: (space ++ [quote])) ∧
    (∀ c ∈ blank, Unicode.isSpace c = true) ∧ (∀ c ∈ space, Unicode.isSpace c = true) ∧
    isQuote quote = true

/-- The last character of a lead is its only quote. -/
theorem IsLead.exists_quote {lead : List Char} (h : IsLead lead) :
    ∃ body quote, lead = body ++ [quote] ∧ isQuote quote = true ∧ ∀ c ∈ body, isQuote c = false := by
  obtain ⟨blank, space, quote, rfl, hblank, hspace, hquote⟩ := h
  have hplain : ∀ c, Unicode.isSpace c = true → isQuote c = false := by
    intro c hc
    by_contra hq
    rw [isSpace_of_isQuote (Bool.not_eq_false _ ▸ hq)] at hc
    cases hc
  have hname : "lang".toList.all (fun c => !isQuote c) = true := by decide
  refine ⟨"lang".toList ++ (blank ++ '=' :: space), quote, by simp, hquote, ?_⟩
  intro c hc
  rcases List.mem_append.1 hc with hc | hc
  · simpa using List.all_eq_true.1 hname c hc
  · rcases List.mem_append.1 hc with hc | hc
    · exact hplain c (hblank c hc)
    · rcases List.mem_cons.1 hc with rfl | hc
      · decide
      · exact hplain c (hspace c hc)

theorem IsLead.exists_cons {lead : List Char} (h : IsLead lead) : ∃ c rest, lead = c :: rest := by
  obtain ⟨blank, space, quote, rfl, _⟩ := h
  exact ⟨'l', _, rfl⟩

namespace LangAttribute

/-- The attributes in which an attribute was found. -/
def text (found : LangAttribute) : List Char :=
  found.before ++ (found.value ++ found.after)

/-- The value of an attribute goes up to the next quote. -/
structure Closed (found : LangAttribute) : Prop where
  value : ∀ c ∈ found.value, isQuote c = false
  after : ∃ quote rest, found.after = quote :: rest ∧ isQuote quote = true

end LangAttribute

/-- **Which texts start with a language attribute**: those with a lead, a value without quotes, and a
quote. -/
theorem langAt_eq_some_iff {cs : List Char} {found : LangAttribute} :
    langAt cs = some found ↔ cs = found.text ∧ IsLead found.before ∧ found.Closed := by
  unfold langAt
  constructor
  · intro h
    split at h
    · next q rest hrest =>
        obtain ⟨blank, space, hcs, hblank, hspace, _⟩ := afterEquals_eq_cons_iff.1 hrest
        have hparts : cs = ("lang".toList ++ (blank ++ '=' :: (space ++ [q]))) ++ rest := by
          rw [hcs]
          simp
        dsimp only at h
        split at h
        · next hquotes =>
            rw [Bool.and_eq_true] at hquotes
            obtain rfl := Option.some_inj.1 h
            have hlead : cs.take (cs.length - rest.length) =
                "lang".toList ++ (blank ++ '=' :: (space ++ [q])) := by
              rw [hparts, List.length_append, Nat.add_sub_cancel, List.take_left]
            refine ⟨?_, ?_, ?_, ?_⟩
            · simp only [LangAttribute.text, List.takeWhile_append_dropWhile, hlead, ← hparts]
            · simp only [hlead]
              exact ⟨blank, space, q, rfl, hblank, hspace, hquotes.1⟩
            · intro c hc
              simpa using List.mem_takeWhile_imp hc
            · cases hafter : rest.dropWhile fun c => !isQuote c with
              | nil => simp [hafter] at hquotes
              | cons quote tail =>
                  obtain ⟨_, _, _, hquote⟩ := dropWhile_eq_cons_iff.1 hafter
                  exact ⟨quote, tail, rfl, by simpa using hquote⟩
        · simp at h
    · simp at h
  · rintro ⟨rfl, ⟨blank, space, q, hlead, hblank, hspace, hq⟩, hvalue, quote, tail, hafter, hquote⟩
    have hequals : afterEquals "lang".toList found.text =
        some (q :: (found.value ++ found.after)) := by
      refine afterEquals_eq_cons_iff.2 ⟨blank, space, ?_, hblank, hspace, isSpace_of_isQuote hq⟩
      rw [LangAttribute.text, hlead]
      simp
    have hplain : ∀ c ∈ found.value, (!isQuote c) = true := by
      intro c hc
      rw [hvalue c hc]
      rfl
    have hdrop : (found.value ++ found.after).dropWhile (fun c => !isQuote c) = found.after := by
      rw [hafter]
      exact dropWhile_eq_cons_iff.2 ⟨found.value, rfl, hplain, by simp [hquote]⟩
    have htake : (found.value ++ found.after).takeWhile (fun c => !isQuote c) = found.value := by
      rw [hafter]
      exact takeWhile_append_cons hplain (by simp [hquote])
    have hlength : found.text.length - (found.value ++ found.after).length =
        found.before.length := by
      simp [LangAttribute.text]
    have hbefore : found.text.take found.before.length = found.before := List.take_left
    have hsome : found.after.isEmpty = false := by
      rw [hafter]
      rfl
    rw [hequals]
    simp only [hdrop, htake, hlength, hbefore, hq, hsome]
    rfl

/-- A text starts with a language attribute if a lead does and there is a quote somewhere behind it. -/
theorem exists_langAt_iff {cs : List Char} :
    (∃ found, langAt cs = some found) ↔
      ∃ lead rest, cs = lead ++ rest ∧ IsLead lead ∧ ∃ c ∈ rest, isQuote c = true := by
  constructor
  · rintro ⟨found, h⟩
    obtain ⟨rfl, hlead, hclosed⟩ := langAt_eq_some_iff.1 h
    obtain ⟨quote, rest, hafter, hquote⟩ := hclosed.after
    exact ⟨found.before, found.value ++ found.after, rfl, hlead, quote, by simp [hafter], hquote⟩
  · rintro ⟨lead, rest, rfl, hlead, c, hc, hquote⟩
    cases hafter : rest.dropWhile fun c => !isQuote c with
    | nil =>
        have hplain := List.dropWhile_eq_nil_iff.1 hafter c hc
        simp [hquote] at hplain
    | cons quote tail =>
        obtain ⟨value, rfl, hvalue, hfirst⟩ := dropWhile_eq_cons_iff.1 hafter
        refine ⟨⟨lead, value, quote :: tail⟩, langAt_eq_some_iff.2 ⟨rfl, hlead, ?_, ?_⟩⟩
        · simpa using hvalue
        · exact ⟨quote, tail, rfl, by simpa using hfirst⟩

/-- What stands between two quotes does not decide whether a text starts with a language attribute: its
lead ends no later than the first quote, and the second one is behind it. -/
theorem exists_langAt_exchange {front after : List Char} (value other : List Char)
    (hfront : ∃ body quote, front = body ++ [quote] ∧ isQuote quote = true)
    (hafter : ∃ quote rest, after = quote :: rest ∧ isQuote quote = true)
    (h : ∃ found, langAt (front ++ (value ++ after)) = some found) :
    ∃ found, langAt (front ++ (other ++ after)) = some found := by
  obtain ⟨body, quote, rfl, hquote⟩ := hfront
  obtain ⟨last, tail, rfl, hlast⟩ := hafter
  obtain ⟨lead, rest, hcs, hlead, _⟩ := exists_langAt_iff.1 h
  suffices hshort : ∃ more, body ++ [quote] = lead ++ more by
    obtain ⟨more, hmore⟩ := hshort
    refine exists_langAt_iff.2 ⟨lead, more ++ (other ++ last :: tail), ?_, hlead, last, by simp, hlast⟩
    rw [hmore, List.append_assoc]
  rcases List.append_eq_append_iff.1 hcs with ⟨more, hmore, _⟩ | ⟨more, hmore, _⟩
  · -- the lead is not longer: the first quote would not be its last character
    rcases List.eq_nil_or_concat' more with rfl | ⟨inner, c, rfl⟩
    · exact ⟨[], by rw [hmore, List.append_nil, List.append_nil]⟩
    · obtain ⟨plain, final, hplain, _, hnone⟩ := hlead.exists_quote
      rw [hmore, ← List.append_assoc] at hplain
      obtain rfl := List.append_inj_left' hplain rfl
      have hnoquote := hnone quote (by simp)
      rw [hquote] at hnoquote
      cases hnoquote
  · exact ⟨more, hmore⟩

/-! ### The first attribute -/

/-- The first attribute of a text stands at its start, or it is the first one behind the first character. -/
theorem findLangFrom_cons_iff {previous : Option Char} {c : Char} {cs : List Char}
    {found : LangAttribute} :
    findLangFrom previous (c :: cs) = some found ↔
      (previous.any Unicode.isWord = false ∧ langAt (c :: cs) = some found) ∨
        ((previous.any Unicode.isWord = true ∨ langAt (c :: cs) = none) ∧
          ∃ later, findLangFrom (some c) cs = some later ∧
            { later with before := c :: later.before } = found) := by
  rw [findLangFrom]
  cases previous.any Unicode.isWord with
  | true => simp [Option.map_eq_some_iff]
  | false => cases langAt (c :: cs) <;> simp [Option.map_eq_some_iff]

/-- An attribute that was found, with what stands around it: a quote before its value, and one after. -/
theorem text_of_findLangFrom {previous : Option Char} {cs : List Char} {found : LangAttribute}
    (h : findLangFrom previous cs = some found) :
    cs = found.text ∧ found.Closed ∧
      ∃ body quote, found.before = body ++ [quote] ∧ isQuote quote = true := by
  induction cs generalizing previous found with
  | nil => cases h
  | cons c cs ih =>
      rcases findLangFrom_cons_iff.1 h with ⟨_, hhere⟩ | ⟨_, later, hlater, rfl⟩
      · obtain ⟨hcs, hlead, hclosed⟩ := langAt_eq_some_iff.1 hhere
        obtain ⟨body, quote, hbefore, hquote, _⟩ := hlead.exists_quote
        exact ⟨hcs, hclosed, body, quote, hbefore, hquote⟩
      · obtain ⟨rfl, ⟨hvalue, hafter⟩, body, quote, hbefore, hquote⟩ := ih hlater
        exact ⟨rfl, ⟨hvalue, hafter⟩, c :: body, quote, by rw [hbefore, List.cons_append], hquote⟩

/-- With another value without quotes, the same attribute is found. -/
theorem findLangFrom_exchange {previous : Option Char} {cs value : List Char}
    {found : LangAttribute} (h : findLangFrom previous cs = some found)
    (hvalue : ∀ c ∈ value, isQuote c = false) :
    findLangFrom previous { found with value }.text = some { found with value } := by
  induction cs generalizing previous found with
  | nil => cases h
  | cons c cs ih =>
      rcases findLangFrom_cons_iff.1 h with ⟨hprevious, hhere⟩ | ⟨hno, later, hlater, rfl⟩
      · obtain ⟨_, hlead, hclosed⟩ := langAt_eq_some_iff.1 hhere
        obtain ⟨first, tail, hfirst⟩ := hlead.exists_cons
        have hnew : langAt { found with value }.text = some { found with value } :=
          langAt_eq_some_iff.2 ⟨rfl, hlead, hvalue, hclosed.after⟩
        rw [LangAttribute.text] at hnew ⊢
        dsimp only at hnew ⊢
        rw [hfirst, List.cons_append] at hnew ⊢
        exact findLangFrom_cons_iff.2 (Or.inl ⟨hprevious, hnew⟩)
      · obtain ⟨rfl, hclosed, body, quote, hbefore, hquote⟩ := text_of_findLangFrom hlater
        have hfront : ∃ body quote, c :: later.before = body ++ [quote] ∧ isQuote quote = true :=
          ⟨c :: body, quote, by rw [hbefore, List.cons_append], hquote⟩
        -- if an attribute started here now, one would have started here before
        have hhere : previous.any Unicode.isWord = true ∨
            langAt (c :: LangAttribute.text { later with value }) = none := by
          refine hno.imp_right fun hnone => ?_
          by_contra hsome
          obtain ⟨found, hfound⟩ := exists_langAt_exchange value later.value hfront hclosed.after
            (Option.ne_none_iff_exists'.1 hsome)
          cases hnone.symm.trans hfound
        exact findLangFrom_cons_iff.2 (Or.inr ⟨hhere, _, ih hlater, rfl⟩)

/-! ### Exchanging the value -/

/-- An attribute that was found, with what stands around it. -/
theorem eq_text_of_findLang {attributes : List Char} {found : LangAttribute}
    (h : findLang attributes = some found) : attributes = found.text :=
  (text_of_findLangFrom h).1

/-- **Exchanging the value of the first language attribute leaves it the first one.** -/
theorem findLang_replaceLang {attributes language : List Char} {found : LangAttribute}
    (h : findLang attributes = some found) (hlanguage : ∀ c ∈ language, isQuote c = false) :
    findLang (replaceLang attributes language) = some { found with value := language } := by
  have hnew := findLangFrom_exchange h hlanguage
  rw [replaceLang, h]
  simpa [LangAttribute.text, findLang] using hnew

/-- Attributes with another value start as they did before. -/
theorem head?_replaceLang (attributes language : List Char) :
    (replaceLang attributes language).head? = attributes.head? := by
  unfold replaceLang
  split
  · next found hfound =>
      obtain ⟨rfl, _, body, quote, hbefore, _⟩ := text_of_findLangFrom hfound
      have hne : found.before ≠ [] := by simp [hbefore]
      rw [LangAttribute.text, List.append_assoc, List.head?_append_of_ne_nil _ hne,
        List.head?_append_of_ne_nil _ hne]
  · rfl

theorem mem_replaceLang {attributes language : List Char} {c : Char}
    (h : c ∈ replaceLang attributes language) : c ∈ attributes ∨ c ∈ language := by
  unfold replaceLang at h
  split at h
  · next found hfound =>
      rw [eq_text_of_findLang hfound, LangAttribute.text]
      simp only [List.mem_append] at h ⊢
      tauto
  · exact Or.inl h

end Markup

end Inlay
