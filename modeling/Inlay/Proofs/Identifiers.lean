/-
**Words and identifiers.**

An anchor is an identifier of the generated code, and it is looked for in the host as a word.  The two notions
differ: a dollar sign may be part of an identifier, but it is no word character, while marks, connectors and
joiners are word characters but neither letters nor digits.  So the search goes wrong around dollar signs.  An
identifier that begins or ends with one is accepted only where a word character stands next to it, that is,
inside a longer identifier; and any other one is accepted next to a dollar sign, where it is only a part.

Main definitions:

* `Inlay.Text.isIdentifierPart`, `Inlay.Text.IsIdentifier` — identifiers;
* `Inlay.Text.Complete` — a place at which no identifier goes on to either side;
* `Inlay.Text.Accepted` — **the places that the search accepts for an identifier**;
* `Inlay.Anchor.FollowsIdentifiers` — an anchor goes to the first place at which its name is complete.

Main results:

* `Inlay.Text.standsAsWord_iff` — an identifier stands as a word exactly at the accepted places;
* `Inlay.Text.firstPlace_agree_iff` — when two kinds of places have the same first one;
* `Inlay.Anchor.followsIdentifiers_iff` — **an anchor goes to the first place at which its name is complete
  exactly if the search goes wrong nowhere before**;
* `Inlay.Anchor.not_followsIdentifiers_dollar` — it does go wrong at a dollar sign.
-/
import Inlay.Proofs.Accounts

set_option autoImplicit false

namespace Inlay

namespace Text

/-! ### Identifiers -/

/-- Letters of any script. -/
def isLetter (c : Char) : Bool :=
  if c.toNat < 128 then c.isAlpha else Unicode.Category.letters.any (·.holds c.toNat)

/-- What identifiers are made of: letters, digits, the underscore and the dollar sign. -/
def isIdentifierPart (c : Char) : Bool :=
  isLetter c || Unicode.isDecimal c || c == '_' || c == '$'

/-- Whether a text is an identifier; no identifier starts with a digit. -/
structure IsIdentifier (name : List Char) : Prop where
  ne_nil : name ≠ []
  parts : ∀ c ∈ name, isIdentifierPart c = true
  noDigit : name.head?.any Unicode.isDecimal = false

instance (name : List Char) : Decidable (IsIdentifier name) :=
  decidable_of_iff (name ≠ [] ∧ name.all isIdentifierPart = true ∧
      name.head?.any Unicode.isDecimal = false)
    ⟨fun ⟨hne, hparts, hdigit⟩ => ⟨hne, List.all_eq_true.1 hparts, hdigit⟩,
      fun h => ⟨h.ne_nil, List.all_eq_true.2 h.parts, h.noDigit⟩⟩

/-- Whether no identifier goes on into a name that stands between two parts of a line, nor out of it. -/
def Complete (front back : List Char) : Prop :=
  front.getLast?.any isIdentifierPart = false ∧ back.head?.any isIdentifierPart = false

instance (front back : List Char) : Decidable (Complete front back) :=
  inferInstanceAs (Decidable (_ ∧ _))

/-- Whether the search accepts what stands next to an end of an identifier: a word character next to a
dollar sign, and no word character next to anything else. -/
def Accepts (edge neighbour : Option Char) : Prop :=
  neighbour.any Unicode.isWord = decide (edge = some '$')

instance (edge neighbour : Option Char) : Decidable (Accepts edge neighbour) :=
  inferInstanceAs (Decidable (_ = _))

/-- Whether the search accepts an identifier between two parts of a line. -/
def Accepted (name front back : List Char) : Prop :=
  Accepts name.head? front.getLast? ∧ Accepts name.getLast? back.head?

instance (name front back : List Char) : Decidable (Accepted name front back) :=
  inferInstanceAs (Decidable (_ ∧ _))

theorem isDigit_of_isDecimal {c : Char} (hnarrow : c.toNat < 128) (h : Unicode.isDecimal c = true) :
    c.isDigit = true := by
  rw [Unicode.isDecimal, if_pos hnarrow, Bool.and_eq_true, decide_eq_true_iff, decide_eq_true_iff] at h
  rw [Char.isDigit, Bool.and_eq_true, decide_eq_true_iff, decide_eq_true_iff]
  exact ⟨UInt32.le_iff_toNat_le.2 h.1, UInt32.le_iff_toNat_le.2 h.2⟩

/-- All that identifiers are made of are word characters, but for the dollar sign. -/
theorem isWord_of_isIdentifierPart {c : Char} (h : isIdentifierPart c = true) :
    Unicode.isWord c = decide (c ≠ '$') := by
  by_cases hdollar : c = '$'
  · subst hdollar
    decide
  · have hparts : isLetter c = true ∨ Unicode.isDecimal c = true ∨ c = '_' := by
      simpa [isIdentifierPart, hdollar, or_assoc] using h
    rw [decide_eq_true hdollar, Unicode.isWord]
    by_cases hnarrow : c.toNat < 128
    · rw [if_pos hnarrow]
      rcases hparts with hletter | hdigit | rfl
      · rw [isLetter, if_pos hnarrow] at hletter
        simp [Char.isAlphanum, hletter]
      · simp [Char.isAlphanum, isDigit_of_isDecimal hnarrow hdigit]
      · rfl
    · rw [if_neg hnarrow]
      rcases hparts with hletter | hdigit | rfl
      · rw [isLetter, if_neg hnarrow] at hletter
        simp [hletter]
      · rw [Unicode.isDecimal, if_neg hnarrow] at hdigit
        simp [hdigit]
      · exact absurd (by decide) hnarrow

/-- A boundary next to an end of an identifier is what the search accepts there. -/
theorem isBoundary_iff_accepts {edge : Char} (h : isIdentifierPart edge = true)
    (neighbour : Option Char) :
    isBoundary neighbour (some edge) = true ↔ Accepts (some edge) neighbour := by
  rw [isBoundary, Option.any_some, isWord_of_isIdentifierPart h, Accepts]
  by_cases hdollar : edge = '$'
  · simp [hdollar]
  · simp [hdollar]

theorem isBoundary_comm (before after : Option Char) : isBoundary before after = isBoundary after before :=
  Bool.xor_comm _ _

/-- An identifier stands as a word exactly at the places that the search accepts for it. -/
theorem standsAsWord_iff {name front back : List Char} (h : IsIdentifier name) :
    StandsAsWord name front back ↔ Accepted name front back := by
  obtain ⟨first, hfirst⟩ : ∃ first, name.head? = some first :=
    Option.ne_none_iff_exists'.1 (by simpa using h.ne_nil)
  obtain ⟨last, hlast⟩ : ∃ last, name.getLast? = some last :=
    Option.ne_none_iff_exists'.1 (by simpa using h.ne_nil)
  have hhead : (name ++ back).head? = some first := by
    rw [List.head?_append, hfirst, Option.some_or]
  have hend : (front ++ name).getLast? = some last := by
    rw [List.getLast?_append, hlast, Option.some_or]
  rw [StandsAsWord, Accepted, hhead, hend, hfirst, hlast, isBoundary_comm (some last),
    isBoundary_iff_accepts (h.parts first (List.mem_of_mem_head? hfirst)),
    isBoundary_iff_accepts (h.parts last (List.mem_of_mem_getLast? hlast))]

/-- Away from dollar signs and odd word characters, the accepted places are those at which the name is
complete. -/
theorem accepted_iff_complete {name front back : List Char} (hhead : name.head? ≠ some '$')
    (hlast : name.getLast? ≠ some '$')
    (hneighbour : ∀ c, front.getLast? = some c ∨ back.head? = some c →
      Unicode.isWord c = isIdentifierPart c) :
    Accepted name front back ↔ Complete front back := by
  have hbefore : front.getLast?.any Unicode.isWord = front.getLast?.any isIdentifierPart := by
    cases hc : front.getLast? with
    | none => rfl
    | some c => exact hneighbour c (Or.inl hc)
  have hafter : back.head?.any Unicode.isWord = back.head?.any isIdentifierPart := by
    cases hc : back.head? with
    | none => rfl
    | some c => exact hneighbour c (Or.inr hc)
  rw [Accepted, Accepts, Accepts, Complete, hbefore, hafter, decide_eq_false hhead,
    decide_eq_false hlast]

/-! ### First places -/

/-- When two kinds of places have the same first one, and one has none only if the other has none: exactly
if a place of one kind alone always has a place of both kinds before it. -/
theorem firstPlace_agree_iff {P Q : List Char → List Char → Prop} {word line : List Char} :
    ((∀ front back, FirstPlace Q word line front back → FirstPlace P word line front back) ∧
      ((∀ front back, line = front ++ (word ++ back) → ¬ Q front back) →
        ∀ front back, line = front ++ (word ++ back) → ¬ P front back)) ↔
    ∀ front back, line = front ++ (word ++ back) → (P front back ↔ ¬ Q front back) →
      ∃ front' back', line = front' ++ (word ++ back') ∧ front'.length < front.length ∧
        P front' back' ∧ Q front' back' := by
  constructor
  · rintro ⟨hfirst, hnone⟩ front back hparts halone
    -- there is a place of the second kind, since there would be none of the first otherwise
    have hsome : ∃ front' back', line = front' ++ (word ++ back') ∧ Q front' back' := by
      by_contra hno
      have hQ : ∀ front back, line = front ++ (word ++ back) → ¬ Q front back :=
        fun front' back' hparts' hholds => hno ⟨front', back', hparts', hholds⟩
      exact hnone hQ front back hparts (halone.2 (hQ front back hparts))
    obtain ⟨_, _, hparts', hholds'⟩ := hsome
    obtain ⟨front', back', hleast⟩ := exists_firstPlace hparts' hholds'
    have hboth := hfirst front' back' hleast
    refine ⟨front', back', hleast.parts, ?_, hboth.holds, hleast.holds⟩
    -- the first of both kinds is not behind the place, and it is not the place itself
    have hle : front'.length ≤ front.length := by
      by_cases hQ : Q front back
      · exact hleast.least front back hparts hQ
      · exact hboth.least front back hparts (halone.2 hQ)
    refine Nat.lt_of_le_of_ne hle fun hlength => ?_
    obtain ⟨rfl, rfl⟩ := eq_of_length_eq hleast.parts hparts hlength
    exact halone.1 hboth.holds hleast.holds
  · intro hbefore
    refine ⟨?_, ?_⟩
    · intro front back hleast
      -- a place of one kind alone that is not behind the first one contradicts that it is the first
      have hcontra : ∀ front' back', line = front' ++ (word ++ back') →
          (P front' back' ↔ ¬ Q front' back') → front.length < front'.length := by
        intro front' back' hparts halone
        obtain ⟨_, _, hparts', hlt, _, hQ⟩ := hbefore front' back' hparts halone
        exact Nat.lt_of_le_of_lt (hleast.least _ _ hparts' hQ) hlt
      have hP : P front back := by
        by_contra hno
        have halone : P front back ↔ ¬ Q front back :=
          ⟨fun h => absurd h hno, fun h => absurd hleast.holds h⟩
        exact Nat.lt_irrefl _ (hcontra front back hleast.parts halone)
      refine ⟨hleast.parts, hP, ?_⟩
      intro front' back' hparts hP'
      by_cases hQ : Q front' back'
      · exact hleast.least front' back' hparts hQ
      · exact Nat.le_of_lt (hcontra front' back' hparts ⟨fun _ => hQ, fun _ => hP'⟩)
    · intro hnone front back hparts hP
      obtain ⟨front', back', hparts', _, _, hQ⟩ :=
        hbefore front back hparts ⟨fun _ => hnone front back hparts, fun _ => hP⟩
      exact hnone front' back' hparts' hQ

/-- A place on a line is given by the number of characters in front of it. -/
theorem forall_places {P : List Char → List Char → Prop} {word line : List Char}
    (h : ∀ n ≤ line.length, line.drop n = word ++ line.drop (n + word.length) →
      P (line.take n) (line.drop (n + word.length))) :
    ∀ front back, line = front ++ (word ++ back) → P front back := by
  rintro front back rfl
  have hplace := h front.length (by simp) (by simp)
  simpa using hplace

end Text

namespace Anchor

open Text

variable (anchor : Anchor) (map : NativeMap) (host : Host) (placement : Placement)

/-- Whether an anchor goes to the first place of a host line at which its name is complete, and is reported
if there is none. -/
structure FollowsIdentifiers (hostLine : Nat) (line : List Char) : Prop where
  first : ∀ front back, FirstPlace Complete anchor.name.toList line front back →
    anchor.resolve map host placement = .ok { line := hostLine, column := utf16Length front }
  notFound : (∀ front back, line = front ++ (anchor.name.toList ++ back) → ¬ Complete front back) →
    anchor.resolve map host placement = .error (anchor.notFound hostLine)

section Resolve

variable {anchor map host placement} {delta source snippetLine snippetColumn : Nat}
  {nameIndex : Option Nat} {text : String}
  (hsegment : map.firstSegment anchor.line =
    some (.mapped delta source snippetLine snippetColumn nameIndex))
  (htext : host.lineText (placement.hostLine snippetLine) = some text)
include hsegment htext

/-- An anchor goes to a place at which its name stands exactly if that is the first one as a word. -/
theorem resolve_eq_ok_iff {front back : List Char}
    (hparts : text.toList = front ++ (anchor.name.toList ++ back)) :
    anchor.resolve map host placement =
        .ok { line := placement.hostLine snippetLine, column := utf16Length front } ↔
      FirstPlace (StandsAsWord anchor.name.toList) anchor.name.toList text.toList front back := by
  rw [resolve_eq hsegment htext]
  constructor
  · intro h
    cases hcolumn : columnIn anchor.name text with
    | none =>
        rw [hcolumn] at h
        cases h
    | some column =>
        rw [hcolumn] at h
        have hlength : column = utf16Length front :=
          congrArg HostPosition.column (Except.ok.inj h)
        obtain ⟨front', back', hfirst, hfront⟩ := columnIn_eq_some_iff.1 hcolumn
        -- as many units are in front of both places, so they are one
        obtain ⟨rfl, hrest⟩ := append_inj_of_utf16Length (hparts.symm.trans hfirst.parts)
          (hlength.symm.trans hfront)
        obtain rfl := List.append_cancel_left hrest
        exact hfirst
  · intro hfirst
    rw [columnIn_eq_some_iff.2 ⟨front, back, hfirst, rfl⟩]

theorem resolve_eq_notFound_iff :
    anchor.resolve map host placement = .error (anchor.notFound (placement.hostLine snippetLine)) ↔
      ∀ front back, text.toList = front ++ (anchor.name.toList ++ back) →
        ¬ StandsAsWord anchor.name.toList front back := by
  rw [resolve_eq hsegment htext, ← columnIn_eq_none_iff]
  cases columnIn anchor.name text <;> simp

/-- Following identifiers, in terms of first places. -/
theorem followsIdentifiers_iff_firstPlace :
    anchor.FollowsIdentifiers map host placement (placement.hostLine snippetLine) text.toList ↔
      (∀ front back, FirstPlace Complete anchor.name.toList text.toList front back →
        FirstPlace (StandsAsWord anchor.name.toList) anchor.name.toList text.toList front back) ∧
      ((∀ front back, text.toList = front ++ (anchor.name.toList ++ back) → ¬ Complete front back) →
        ∀ front back, text.toList = front ++ (anchor.name.toList ++ back) →
          ¬ StandsAsWord anchor.name.toList front back) := by
  constructor
  · intro h
    refine ⟨?_, ?_⟩
    · intro front back hfirst
      exact (resolve_eq_ok_iff hsegment htext hfirst.parts).1 (h.first front back hfirst)
    · intro hnone
      exact (resolve_eq_notFound_iff hsegment htext).1 (h.notFound hnone)
  · rintro ⟨hfirst, hnone⟩
    refine ⟨?_, ?_⟩
    · intro front back hcomplete
      exact (resolve_eq_ok_iff hsegment htext hcomplete.parts).2 (hfirst front back hcomplete)
    · intro hcomplete
      exact (resolve_eq_notFound_iff hsegment htext).2 (hnone hcomplete)

/-- **When an anchor goes to the first place at which its name is complete.**  For a name that is an
identifier this is so exactly if each place that the search accepts although the name is not complete there,
or does not accept although it is, comes behind one that the search accepts and at which the name is complete.
In particular it is so if the name has no dollar sign at its ends, and all word characters next to it on the
line are letters, digits or underscores, and no dollar sign is next to it. -/
theorem followsIdentifiers_iff (hname : IsIdentifier anchor.name.toList) :
    (anchor.FollowsIdentifiers map host placement (placement.hostLine snippetLine) text.toList ↔
      ∀ front back, text.toList = front ++ (anchor.name.toList ++ back) →
        (Accepted anchor.name.toList front back ↔ ¬ Complete front back) →
          ∃ front' back', text.toList = front' ++ (anchor.name.toList ++ back') ∧
            front'.length < front.length ∧
            Accepted anchor.name.toList front' back' ∧ Complete front' back') ∧
    (anchor.name.toList.head? ≠ some '$' → anchor.name.toList.getLast? ≠ some '$' →
      (∀ front back c, text.toList = front ++ (anchor.name.toList ++ back) →
        front.getLast? = some c ∨ back.head? = some c → Unicode.isWord c = isIdentifierPart c) →
      anchor.FollowsIdentifiers map host placement (placement.hostLine snippetLine) text.toList) := by
  have hword : StandsAsWord anchor.name.toList = Accepted anchor.name.toList := by
    funext front back
    exact propext (standsAsWord_iff hname)
  have hiff := followsIdentifiers_iff_firstPlace hsegment htext
  rw [hword, firstPlace_agree_iff] at hiff
  refine ⟨hiff, ?_⟩
  intro hhead hlast hneighbour
  rw [hiff]
  intro front back hparts halone
  -- here no place is judged in two ways
  have hagree := accepted_iff_complete hhead hlast fun c => hneighbour front back c hparts
  exact absurd (hagree.symm.trans halone) iff_not_self

end Resolve

/-- The second `item` of the line is part of a longer identifier, and comes behind one that is complete. -/
theorem followsIdentifiers_iff_item :
    ∃ (anchor : Anchor) (map : NativeMap) (host : Host) (text : String),
      anchor = ⟨"item", 0, 11, 15⟩ ∧ map = .ofLines [[[0, 0, 0, 0]]] none ∧
      host = ⟨"App.svelte", "item $item"⟩ ∧ text = "item $item" ∧
      IsIdentifier anchor.name.toList ∧
      map.firstSegment anchor.line = some (.mapped 0 0 0 0 none) ∧
      host.lineText (Placement.hostLine ⟨0, 0, 0⟩ 0) = some text ∧
      (Accepted "item".toList "item $".toList [] ∧ ¬ Complete "item $".toList []) ∧
      anchor.FollowsIdentifiers map host ⟨0, 0, 0⟩ 0 text.toList := by
  have hname : IsIdentifier "item".toList := by decide
  have hsegment : (NativeMap.ofLines [[[0, 0, 0, 0]]] none).firstSegment 0 =
      some (.mapped 0 0 0 0 none) := by
    decide
  have htext : Host.lineText ⟨"App.svelte", "item $item"⟩ (Placement.hostLine ⟨0, 0, 0⟩ 0) =
      some "item $item" := by
    decide +kernel
  have hplaces : ∀ front back, "item $item".toList = front ++ ("item".toList ++ back) →
      (Accepted "item".toList front back ↔ ¬ Complete front back) →
        ∃ front' back', "item $item".toList = front' ++ ("item".toList ++ back') ∧
          front'.length < front.length ∧ Accepted "item".toList front' back' ∧
          Complete front' back' := by
    refine forall_places ?_
    intro n _ _ halone
    refine ⟨[], " $item".toList, by decide, ?_, by decide, by decide⟩
    cases n with
    | zero => exact absurd halone (by decide)
    | succ n => simp
  have hfollows : FollowsIdentifiers ⟨"item", 0, 11, 15⟩ (.ofLines [[[0, 0, 0, 0]]] none)
      ⟨"App.svelte", "item $item"⟩ ⟨0, 0, 0⟩ 0 "item $item".toList :=
    (followsIdentifiers_iff hsegment htext hname).1.2 hplaces
  exact ⟨_, _, _, _, rfl, rfl, rfl, rfl, hname, hsegment, htext, by decide, hfollows⟩

/-- At a dollar sign the search goes wrong both ways: `$item` stands on the line and is not found, and `item`
is found although it stands there only as a part of it. -/
theorem not_followsIdentifiers_dollar :
    ∃ (map : NativeMap) (host : Host) (line : List Char),
      map = .ofLines [[[0, 0, 0, 0]]] none ∧ host = ⟨"App.svelte", "for $item of items"⟩ ∧
      line = "for $item of items".toList ∧
      map.firstSegment 0 = some (.mapped 0 0 0 0 none) ∧
      host.lineText (Placement.hostLine ⟨0, 0, 0⟩ 0) = some "for $item of items" ∧
      IsIdentifier "$item".toList ∧
      ¬ FollowsIdentifiers ⟨"$item", 0, 11, 16⟩ map host ⟨0, 0, 0⟩ 0 line ∧
      IsIdentifier "item".toList ∧
      ¬ FollowsIdentifiers ⟨"item", 0, 11, 15⟩ map host ⟨0, 0, 0⟩ 0 line := by
  refine ⟨_, _, _, rfl, rfl, rfl, by decide, by decide +kernel, by decide, ?_, by decide, ?_⟩
  · intro h
    have hplace : "for $item of items".toList =
        "for ".toList ++ ("$item".toList ++ " of items".toList) := by
      decide
    have hcomplete : Complete "for ".toList " of items".toList := by decide
    obtain ⟨front, back, hfirst⟩ := exists_firstPlace hplace hcomplete
    have hmissed : resolve ⟨"$item", 0, 11, 16⟩ (.ofLines [[[0, 0, 0, 0]]] none)
        ⟨"App.svelte", "for $item of items"⟩ ⟨0, 0, 0⟩ =
          .error (notFound ⟨"$item", 0, 11, 16⟩ 0) := by
      decide +kernel
    cases hmissed.symm.trans (h.first front back hfirst)
  · intro h
    have hnowhere : ∀ front back, "for $item of items".toList =
        front ++ ("item".toList ++ back) → ¬ Complete front back := by
      refine forall_places ?_
      decide
    have hfound : resolve ⟨"item", 0, 11, 15⟩ (.ofLines [[[0, 0, 0, 0]]] none)
        ⟨"App.svelte", "for $item of items"⟩ ⟨0, 0, 0⟩ = .ok { line := 0, column := 5 } := by
      decide +kernel
    cases hfound.symm.trans (h.notFound hnowhere)

end Anchor

end Inlay
