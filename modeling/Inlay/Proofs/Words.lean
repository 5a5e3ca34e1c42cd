/-
**Words that were found.**

Looking for a word gives a byte offset.  This module says what it means: the word stands there with a
boundary at both of its ends, the given number of bytes is in front of it, and it stands so at no earlier
place.  If nothing was found, then it stands so nowhere.

Main definitions:

* `Inlay.Text.StandsAsWord` — whether a text stands as a word between two parts of a line;
* `Inlay.Text.FirstPlace` — the first place on a line at which a text stands in some way.

Main results:

* `Inlay.Text.eq_append_of_dropFront` — a front that was dropped stood there;
* `Inlay.Text.wordHere_iff`, `Inlay.Text.firstPlace_of_findWordFrom`,
  `Inlay.Text.findWordFrom_ne_none` — the search, one character after the other;
* `Inlay.Anchor.columnIn_eq_some_iff`, `Inlay.Anchor.columnIn_eq_none_iff` — **a name is found at the
  first place at which it stands as a word**, at its UTF-16 column.
-/
import Inlay.Map.Override
import Inlay.Proofs.LineIndex

set_option autoImplicit false

namespace Inlay

namespace Text

/-! ### Places on a line -/

/-- Whether a text stands as a word between two parts of a line: there is a boundary at both of its
ends. -/
def StandsAsWord (word front back : List Char) : Prop :=
  isBoundary front.getLast? (word ++ back).head? = true ∧
    isBoundary (front ++ word).getLast? back.head? = true

instance (word front back : List Char) : Decidable (StandsAsWord word front back) :=
  inferInstanceAs (Decidable (_ ∧ _))

/-- The first place on a line at which a text stands and something holds of what is in front of it and
behind it. -/
structure FirstPlace (P : List Char → List Char → Prop) (word line front back : List Char) : Prop where
  parts : line = front ++ (word ++ back)
  holds : P front back
  least : ∀ front' back', line = front' ++ (word ++ back') → P front' back' →
    front.length ≤ front'.length

section Places

variable {P : List Char → List Char → Prop} {word line front back front' back' : List Char}

/-- Two places with as many characters in front are the same. -/
theorem eq_of_length_eq (h : line = front ++ (word ++ back)) (h' : line = front' ++ (word ++ back'))
    (hlength : front.length = front'.length) : front = front' ∧ back = back' := by
  obtain ⟨hfront, hrest⟩ := List.append_inj (h.symm.trans h') hlength
  exact ⟨hfront, List.append_cancel_left hrest⟩

theorem FirstPlace.unique (h : FirstPlace P word line front back)
    (h' : FirstPlace P word line front' back') : front = front' ∧ back = back' :=
  eq_of_length_eq h.parts h'.parts
    (Nat.le_antisymm (h.least _ _ h'.parts h'.holds) (h'.least _ _ h.parts h.holds))

/-- If there is a place, then there is a first one. -/
theorem exists_firstPlace (hparts : line = front ++ (word ++ back)) (hholds : P front back) :
    ∃ front back, FirstPlace P word line front back := by
  -- by induction on what is in front: a place that is not the first has one before it
  induction hlength : front.length using Nat.strongRecOn generalizing front back with
  | _ length ih =>
      by_cases hbefore : ∃ front' back', line = front' ++ (word ++ back') ∧ P front' back' ∧
          front'.length < length
      · obtain ⟨front', back', hparts', hholds', hlt⟩ := hbefore
        exact ih _ hlt hparts' hholds' rfl
      · refine ⟨front, back, hparts, hholds, ?_⟩
        intro front' back' hparts' hholds'
        rw [hlength]
        exact Nat.le_of_not_lt fun hlt => hbefore ⟨front', back', hparts', hholds', hlt⟩

end Places

/-! ### The search -/

/-- A front that was dropped stood there. -/
theorem eq_append_of_dropFront {word cs rest : List Char} (h : dropFront word cs = some rest) :
    cs = word ++ rest := by
  fun_induction dropFront word cs with
  | case1 cs => simpa using h
  | case2 => simp at h
  | case3 w ws cs ih => rw [ih h, List.cons_append]
  | case4 => simp at h

theorem dropFront_append (word rest : List Char) : dropFront word (word ++ rest) = some rest := by
  induction word with
  | nil => rfl
  | cons w word ih => rw [List.cons_append, dropFront, if_pos rfl, ih]

/-- A text is found where it stands as a word behind what was passed over. -/
theorem wordHere_iff {word front cs : List Char} :
    wordHere word front.getLast? cs = true ↔ ∃ back, cs = word ++ back ∧ StandsAsWord word front back := by
  have hlast : (front ++ word).getLast? = word.getLast?.or front.getLast? := List.getLast?_append
  constructor
  · intro h
    unfold wordHere at h
    split at h
    · cases h
    · next back hback =>
        obtain rfl := eq_append_of_dropFront hback
        exact ⟨back, rfl, by simpa [StandsAsWord, hlast] using h⟩
  · rintro ⟨back, rfl, h⟩
    rw [wordHere, dropFront_append]
    simpa [StandsAsWord, hlast] using h

variable {word front cs : List Char} {offset found : Nat}

/-- One step of the search. -/
theorem findWordFrom_cons (word front : List Char) (offset : Nat) (c : Char) (cs : List Char) :
    findWordFrom word front.getLast? offset (c :: cs) =
      if wordHere word front.getLast? (c :: cs) then some offset
      else findWordFrom word (front ++ [c]).getLast? (offset + c.utf8Size) cs := by
  rw [findWordFrom, List.getLast?_concat]

theorem firstPlace_of_wordHere (h : wordHere word front.getLast? cs = true) :
    ∃ back, FirstPlace (fun middle back => StandsAsWord word (front ++ middle) back) word cs [] back := by
  obtain ⟨back, hparts, hstands⟩ := wordHere_iff.1 h
  exact ⟨back, hparts, by simpa using hstands, fun _ _ _ _ => Nat.zero_le _⟩

/-- What is found is the first place behind what was passed over, at its byte offset. -/
theorem firstPlace_of_findWordFrom (front : List Char)
    (h : findWordFrom word front.getLast? offset cs = some found) :
    ∃ middle back, FirstPlace (fun middle back => StandsAsWord word (front ++ middle) back) word cs
      middle back ∧ found = offset + utf8Length middle := by
  induction cs generalizing front offset with
  | nil =>
      rw [findWordFrom] at h
      split at h
      · next hhere =>
          obtain ⟨back, hfirst⟩ := firstPlace_of_wordHere hhere
          exact ⟨[], back, hfirst, (Option.some_inj.1 h).symm⟩
      · cases h
  | cons c cs ih =>
      rw [findWordFrom_cons] at h
      split at h
      · next hhere =>
          obtain ⟨back, hfirst⟩ := firstPlace_of_wordHere hhere
          exact ⟨[], back, hfirst, (Option.some_inj.1 h).symm⟩
      · next hhere =>
          obtain ⟨middle, back, hfirst, rfl⟩ := ih _ h
          refine ⟨c :: middle, back, ⟨?_, ?_, ?_⟩, by rw [utf8Length_cons, Nat.add_assoc]⟩
          · rw [hfirst.parts, List.cons_append]
          · simpa using hfirst.holds
          · intro middle' back' hparts hstands
            cases middle' with
            | nil => exact absurd (wordHere_iff.2 ⟨back', hparts, by simpa using hstands⟩) hhere
            | cons c' middle' =>
                obtain ⟨rfl, htail⟩ := List.cons.inj hparts
                exact Nat.succ_le_succ (hfirst.least middle' back' htail (by simpa using hstands))

/-- A text that stands as a word somewhere behind what was passed over is found. -/
theorem findWordFrom_ne_none (front : List Char) {middle back : List Char}
    (hstands : StandsAsWord word (front ++ middle) back) :
    findWordFrom word front.getLast? offset (middle ++ (word ++ back)) ≠ none := by
  induction middle generalizing front offset with
  | nil =>
      have hhere : wordHere word front.getLast? (word ++ back) = true :=
        wordHere_iff.2 ⟨back, rfl, by simpa using hstands⟩
      rw [List.nil_append]
      cases hcs : word ++ back with
      | nil =>
          rw [hcs] at hhere
          rw [findWordFrom, if_pos hhere]
          exact Option.some_ne_none _
      | cons c cs =>
          rw [hcs] at hhere
          rw [findWordFrom_cons, if_pos hhere]
          exact Option.some_ne_none _
  | cons c middle ih =>
      rw [List.cons_append, findWordFrom_cons]
      split
      · exact Option.some_ne_none _
      · exact ih _ (by simpa using hstands)

/-- A word that is found stands at the first place at which it does, and its byte offset has a column. -/
theorem firstPlace_of_findWord {line : List Char} (h : findWord word line = some found) :
    ∃ front back, FirstPlace (StandsAsWord word) word line front back ∧
      columnOfByte line found = some (utf16Length front) := by
  obtain ⟨front, back, hfirst, rfl⟩ := firstPlace_of_findWordFrom [] h
  refine ⟨front, back, hfirst, ?_⟩
  rw [columnOfByte, Nat.zero_add, hfirst.parts, takeBytes_append, Option.map_some]

theorem findWord_eq_none_iff {line : List Char} :
    findWord word line = none ↔
      ∀ front back, line = front ++ (word ++ back) → ¬ StandsAsWord word front back := by
  constructor
  · rintro h front back rfl hstands
    exact findWordFrom_ne_none [] hstands h
  · intro h
    cases hfound : findWord word line with
    | none => rfl
    | some found =>
        obtain ⟨front, back, hfirst, _⟩ := firstPlace_of_findWord hfound
        exact absurd hfirst.holds (h front back hfirst.parts)

end Text

namespace Anchor

open Text

variable {name line : String} {column : Nat}

/-- A name is not found exactly if it stands on the line as a word nowhere. -/
theorem columnIn_eq_none_iff :
    columnIn name line = none ↔ ∀ front back, line.toList = front ++ (name.toList ++ back) →
      ¬ StandsAsWord name.toList front back := by
  rw [← findWord_eq_none_iff, columnIn]
  cases hfound : findWord name.toList line.toList with
  | none => simp
  | some found =>
      -- a byte offset that was found lies between two characters, so it has a column
      obtain ⟨front, back, _, hcolumn⟩ := firstPlace_of_findWord hfound
      simp [hcolumn]

/-- **A name is found at the first place at which it stands as a word**, and its column is the UTF-16 length
of what is in front of it. -/
theorem columnIn_eq_some_iff :
    columnIn name line = some column ↔
      ∃ front back, FirstPlace (StandsAsWord name.toList) name.toList line.toList front back ∧
        column = utf16Length front := by
  constructor
  · intro h
    obtain ⟨found, hfound, hcolumn⟩ := Option.bind_eq_some_iff.1 h
    obtain ⟨front, back, hfirst, hfront⟩ := firstPlace_of_findWord hfound
    exact ⟨front, back, hfirst, Option.some_inj.1 (hcolumn.symm.trans hfront)⟩
  · rintro ⟨front, back, hfirst, rfl⟩
    cases hfound : findWord name.toList line.toList with
    | none => exact absurd hfirst.holds (findWord_eq_none_iff.1 hfound front back hfirst.parts)
    | some found =>
        obtain ⟨front', back', hfirst', hcolumn⟩ := firstPlace_of_findWord hfound
        rw [columnIn, hfound, Option.bind_some, hcolumn, (hfirst.unique hfirst').1]

/-- On a host line that is there, an anchor is resolved by looking for its name. -/
theorem resolve_eq {anchor : Anchor} {map : NativeMap} {host : Host} {placement : Placement}
    {delta source snippetLine snippetColumn : Nat} {nameIndex : Option Nat} {text : String}
    (hsegment : map.firstSegment anchor.line =
      some (.mapped delta source snippetLine snippetColumn nameIndex))
    (htext : host.lineText (placement.hostLine snippetLine) = some text) :
    anchor.resolve map host placement =
      match columnIn anchor.name text with
      | none => .error (anchor.notFound (placement.hostLine snippetLine))
      | some column => .ok { line := placement.hostLine snippetLine, column } := by
  rw [resolve, hsegment]
  dsimp only
  rewrite [htext]
  rfl

end Anchor

end Inlay
