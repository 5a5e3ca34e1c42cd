/-
**Texts cut at separators.**

A text is a list of pieces without separators, one separator between each two.  The induction principle
of this module follows that reading, and the other statements say how the pieces of a text come from
the pieces of its parts.

Main results:

* `Inlay.Text.separated_induction` — induction on the pieces of a text;
* `Inlay.Text.dropWhile_eq_cons_iff` — a text cut where a class of characters ends;
* `Inlay.Text.split_append_of_notMem` — a front without separators lengthens the first piece;
* `Inlay.Text.length_split` — there is one piece more than there are separators;
* `Inlay.Text.split_eq_splitOn` — the pieces are those of the library's `List.splitOn`;
* `Inlay.Text.split_intercalate` — pieces that are joined with separators are cut into the same pieces;
* `Inlay.Text.split_append` — two texts share the piece at which they meet;
* `Inlay.Text.getElem?_split_append` — **the pieces of a text that stands inside another**.
-/
import Inlay.Text.Split
import Mathlib.Data.List.Basic
import Mathlib.Data.List.TakeWhile

set_option autoImplicit false

namespace Inlay.Text

/-- Induction on the pieces of a text: the last piece, and a piece before a separator. -/
@[elab_as_elim]
theorem separated_induction {motive : List Char → Prop} (separator : Char)
    (last : ∀ piece, separator ∉ piece → motive piece)
    (step : ∀ piece rest, separator ∉ piece → motive rest → motive (piece ++ separator :: rest))
    (cs : List Char) : motive cs := by
  -- the induction runs over the characters, with the part of the piece read so far in front
  have key : ∀ front, separator ∉ front → motive (front ++ cs) := by
    induction cs with
    | nil =>
        intro front hfront
        rw [List.append_nil]
        exact last front hfront
    | cons c cs ih =>
        intro front hfront
        by_cases hc : c = separator
        · subst hc
          exact step front cs hfront (ih [] (by simp))
        · have hsnoc : separator ∉ front ++ [c] := by simp [hfront, Ne.symm hc]
          simpa using ih (front ++ [c]) hsnoc
  exact key [] (by simp)

/-! ### Texts cut where a class of characters ends -/

section Classes

variable {α : Type} {p : α → Bool} {cs front rest : List α} {c : α}

/-- The front that `takeWhile` gives, as a number of characters. -/
theorem take_length_takeWhile (p : α → Bool) (cs : List α) :
    cs.take (cs.takeWhile p).length = cs.takeWhile p := by
  have hfront := List.takeWhile_prefix (l := cs) p
  exact (List.prefix_iff_eq_take.1 hfront).symm

/-- What is left behind the characters of a class. -/
theorem dropWhile_eq_cons_iff :
    cs.dropWhile p = c :: rest ↔
      ∃ front, cs = front ++ c :: rest ∧ (∀ d ∈ front, p d = true) ∧ p c = false := by
  constructor
  · intro h
    refine ⟨cs.takeWhile p, ?_, fun d hd => List.mem_takeWhile_imp hd, ?_⟩
    · rw [← h, List.takeWhile_append_dropWhile]
    · have hhead := List.head?_dropWhile_not p cs
      rwa [h] at hhead
  · rintro ⟨front, rfl, hfront, hc⟩
    rw [List.dropWhile_append_of_pos hfront, List.dropWhile_cons_of_neg (by simp [hc])]

/-- What was taken before a character that is not in a class. -/
theorem takeWhile_append_cons (hfront : ∀ d ∈ front, p d = true) (hc : p c = false) :
    (front ++ c :: rest).takeWhile p = front := by
  rw [List.takeWhile_append_of_pos hfront, List.takeWhile_cons_of_neg (by simp [hc]),
    List.append_nil]

end Classes

/-- A word that holds `c` at most as its first character does not reach over a `c`. -/
theorem exists_of_append_cons_eq {back behind word rest : List Char} {c : Char}
    (hback : back ≠ []) (hword : c ∉ word.tail) (h : back ++ c :: behind = word ++ rest) :
    ∃ middle, back = word ++ middle ∧ rest = middle ++ c :: behind := by
  rcases List.append_eq_append_iff.1 h with ⟨extra, rfl, hextra⟩ | hmiddle
  · cases extra with
    | nil => exact ⟨[], by simp, hextra.symm⟩
    | cons d extra =>
        obtain ⟨rfl, -⟩ := List.cons.inj hextra
        obtain ⟨b, back, rfl⟩ := List.exists_cons_of_ne_nil hback
        simp at hword
  · exact hmiddle

/-! ### The pieces of parts of a text -/

/-- The first piece of a text. -/
def firstPiece (separator : Char) (cs : List Char) : List Char :=
  (split separator cs).headD []

/-- The last piece of a text. -/
def lastPiece (separator : Char) (cs : List Char) : List Char :=
  (split separator cs).getLastD []

theorem split_eq_cons (separator : Char) (cs : List Char) :
    split separator cs = firstPiece separator cs :: (split separator cs).tail := by
  cases h : split separator cs with
  | nil => exact absurd h (split_ne_nil separator cs)
  | cons piece rest => simp [firstPiece, h]

@[simp] theorem split_separator_cons (separator : Char) (cs : List Char) :
    split separator (separator :: cs) = [] :: split separator cs := by
  simp [split]

/-- A front without separators lengthens the first piece. -/
theorem split_append_of_notMem {separator : Char} {front : List Char} (h : separator ∉ front)
    (cs : List Char) :
    split separator (front ++ cs) =
      (front ++ firstPiece separator cs) :: (split separator cs).tail := by
  induction front with
  | nil => simpa using split_eq_cons separator cs
  | cons c front ih =>
      have hc : c ≠ separator := fun hc => h (by simp [hc])
      rw [List.cons_append, split, if_neg hc, ih fun hmem => h (List.mem_cons_of_mem _ hmem)]
      rfl

theorem split_of_notMem {separator : Char} {cs : List Char} (h : separator ∉ cs) :
    split separator cs = [cs] := by
  simpa [split, firstPiece] using split_append_of_notMem h []

theorem split_append_cons {separator : Char} {piece : List Char} (h : separator ∉ piece)
    (cs : List Char) :
    split separator (piece ++ separator :: cs) = piece :: split separator cs := by
  rw [split_append_of_notMem h, firstPiece, split_separator_cons]
  simp

/-- The pieces of a text are those of the library. -/
theorem split_eq_splitOn (separator : Char) (cs : List Char) :
    split separator cs = cs.splitOn separator := by
  induction cs using separated_induction separator with
  | last piece hpiece => rw [split_of_notMem hpiece, List.splitOn_eq_singleton hpiece]
  | step piece rest hpiece ih =>
      rw [split_append_cons hpiece, ih, List.splitOn_append_cons_self_of_not_mem hpiece]

/-- A separator cuts a text in two. -/
theorem split_append_separator (separator : Char) (front back : List Char) :
    split separator (front ++ separator :: back) = split separator front ++ split separator back := by
  simp only [split_eq_splitOn, List.splitOn_append_cons_self]

/-- Pieces without separators, joined with separators, are cut into the same pieces. -/
theorem split_intercalate {separator : Char} {pieces : List (List Char)}
    (h : ∀ piece ∈ pieces, separator ∉ piece) (hne : pieces ≠ []) :
    split separator ([separator].intercalate pieces) = pieces := by
  rw [split_eq_splitOn, List.splitOn_intercalate separator h hne]

theorem notMem_of_mem_split {separator : Char} {cs piece : List Char}
    (h : piece ∈ split separator cs) : separator ∉ piece := by
  induction cs using separated_induction separator with
  | last only honly =>
      rw [split_of_notMem honly, List.mem_singleton] at h
      exact h ▸ honly
  | step first rest hfirst ih =>
      rw [split_append_cons hfirst] at h
      rcases List.mem_cons.1 h with rfl | h
      · exact hfirst
      · exact ih h

/-- A piece has no characters that the text does not have. -/
theorem subset_of_mem_split {separator : Char} {cs piece : List Char}
    (h : piece ∈ split separator cs) : piece ⊆ cs := by
  induction cs using separated_induction separator with
  | last only honly =>
      rw [split_of_notMem honly, List.mem_singleton] at h
      exact h ▸ List.Subset.refl _
  | step first rest hfirst ih =>
      rw [split_append_cons hfirst] at h
      rcases List.mem_cons.1 h with rfl | h
      · exact List.subset_append_left _ _
      · exact List.subset_append_of_subset_right _ (List.subset_cons_of_subset _ (ih h))

/-- Joining with a separator brings in no other character. -/
theorem notMem_intercalate {separator c : Char} {pieces : List (List Char)} (hc : c ≠ separator)
    (h : ∀ piece ∈ pieces, c ∉ piece) : c ∉ [separator].intercalate pieces := by
  induction pieces with
  | nil => simp
  | cons piece pieces ih =>
      have hpiece : c ∉ piece := h piece (by simp)
      have hrest := ih fun other hother => h other (by simp [hother])
      cases pieces with
      | nil => simpa using hpiece
      | cons next pieces =>
          rw [List.intercalate_cons_cons]
          simp only [List.mem_append, List.mem_singleton, not_or]
          exact ⟨⟨hpiece, hc⟩, hrest⟩

/-- There is one piece more than there are separators. -/
theorem length_split (separator : Char) (cs : List Char) :
    (split separator cs).length = cs.count separator + 1 := by
  induction cs using separated_induction separator with
  | last piece hpiece => rw [split_of_notMem hpiece, List.count_eq_zero_of_not_mem hpiece]; rfl
  | step piece rest hpiece ih =>
      rw [split_append_cons hpiece, List.length_cons, ih, List.count_append, List.count_cons_self,
        List.count_eq_zero_of_not_mem hpiece]
      omega

theorem lastPiece_of_notMem {separator : Char} {cs : List Char} (h : separator ∉ cs) :
    lastPiece separator cs = cs := by
  simp [lastPiece, split_of_notMem h]

theorem lastPiece_append_cons {separator : Char} {piece : List Char} (h : separator ∉ piece)
    (cs : List Char) :
    lastPiece separator (piece ++ separator :: cs) = lastPiece separator cs := by
  rw [lastPiece, lastPiece, split_append_cons h, split_eq_cons]
  rfl

/-- Behind a separator the last piece is empty. -/
theorem lastPiece_concat (separator : Char) (cs : List Char) :
    lastPiece separator (cs ++ [separator]) = [] := by
  induction cs using separated_induction separator with
  | last piece hpiece =>
      rw [lastPiece_append_cons hpiece]
      rfl
  | step piece rest hpiece ih =>
      rw [List.append_assoc, List.cons_append, lastPiece_append_cons hpiece, ih]

/-- A text is what stands before its last piece, which is empty or ends in a separator, and that
piece. -/
theorem exists_eq_append_lastPiece (separator : Char) (cs : List Char) :
    ∃ front, cs = front ++ lastPiece separator cs ∧ (front = [] ∨ ∃ body, front = body ++ [separator])
      ∧ separator ∉ lastPiece separator cs := by
  induction cs using separated_induction separator with
  | last piece hpiece =>
      rw [lastPiece_of_notMem hpiece]
      exact ⟨[], rfl, Or.inl rfl, hpiece⟩
  | step piece rest hpiece ih =>
      obtain ⟨front, heq, hfront, hlast⟩ := ih
      rw [lastPiece_append_cons hpiece]
      refine ⟨piece ++ separator :: front, ?_, Or.inr ?_, hlast⟩
      · rw [List.append_assoc, List.cons_append, ← heq]
      · rcases hfront with rfl | ⟨body, rfl⟩
        · exact ⟨piece, rfl⟩
        · exact ⟨piece ++ separator :: body, by simp⟩

/-- Two texts share the piece at which they meet. -/
theorem split_append (separator : Char) (front back : List Char) :
    split separator (front ++ back) =
      (split separator front).dropLast
        ++ (lastPiece separator front ++ firstPiece separator back)
          :: (split separator back).tail := by
  induction front using separated_induction separator with
  | last piece hpiece =>
      rw [split_append_of_notMem hpiece, split_of_notMem hpiece, lastPiece_of_notMem hpiece]
      rfl
  | step piece rest hpiece ih =>
      have hne : split separator rest ≠ [] := split_ne_nil separator rest
      rw [List.append_assoc, List.cons_append, split_append_cons hpiece, ih,
        split_append_cons hpiece, lastPiece_append_cons hpiece, List.dropLast_cons_of_ne_nil hne]
      rfl

/-- **The pieces of a text that stands inside another.**  The first one follows the last piece of the
text in front; what comes after the last one is `tail`. -/
theorem getElem?_split_append {separator : Char} {cs piece : List Char} {k : Nat}
    (h : (split separator cs)[k]? = some piece) (front back : List Char) :
    ∃ tail, (split separator (front ++ (cs ++ back)))[front.count separator + k]? =
      some ((if k = 0 then lastPiece separator front else []) ++ (piece ++ tail)) := by
  have hback : ∃ tail, (split separator (cs ++ back))[k]? = some (piece ++ tail) := by
    have hlt : k < (split separator cs).length := (List.getElem?_eq_some_iff.1 h).1
    rw [split_append]
    by_cases hk : k < (split separator cs).dropLast.length
    · refine ⟨[], ?_⟩
      rw [List.getElem?_append_left hk, List.getElem?_dropLast, List.append_nil, ← h]
      exact if_pos (by simpa using hk)
    · -- `k` is the last piece, which goes on with the first piece of `back`
      have hk' : k = (split separator cs).dropLast.length := by
        rw [List.length_dropLast] at hk ⊢
        omega
      have hlast : lastPiece separator cs = piece := by
        rw [List.length_dropLast] at hk'
        rw [lastPiece, List.getLastD_eq_getLast?, List.getLast?_eq_getElem?, ← hk', h]
        rfl
      refine ⟨firstPiece separator back, ?_⟩
      rw [List.getElem?_append_right (Nat.le_of_eq hk'.symm), hk', hlast]
      simp
  obtain ⟨tail, htail⟩ := hback
  refine ⟨tail, ?_⟩
  have hlen : (split separator front).dropLast.length = front.count separator := by
    rw [List.length_dropLast, length_split]
    rfl
  rw [split_append, List.getElem?_append_right (by omega), hlen, Nat.add_sub_cancel_left]
  cases k with
  | zero =>
      rw [split_eq_cons, List.getElem?_cons_zero, Option.some_inj] at htail
      simp [htail]
  | succ k =>
      rw [split_eq_cons, List.getElem?_cons_succ] at htail
      simp [htail]

end Inlay.Text
