/-
**Host positions off the blank of a separator.**

Translating a snippet position may move it from the blank of a comma and blank onto the comma.  It looks at the
UTF-16 units on both sides of the column, before columns beyond the end of the row are moved to its end.  A comma
and a blank are one unit each, so what is found there is a comma and a blank of the row, and never half of
another character.  From this it follows that the move goes one column back at most, that no position is left on
such a blank, and that a position that was moved is not moved again.

Main definitions:

* `Inlay.Text.OnSeparator` — whether a column of a row lies on a blank right behind a comma.

Main results:

* `Inlay.Text.charAtUnit_eq_some_iff` — which character covers a column;
* `Inlay.Text.onSeparator_iff` — a separator, seen from its two units;
* `Inlay.Placement.toHost_off_separators` — **where a snippet position comes to lie**.
-/
import Inlay.Proofs.Host

set_option autoImplicit false

namespace Inlay

namespace Text

/-! ### Characters at columns -/

/-- **Which character covers a column**: the one whose units it lies among. -/
theorem charAtUnit_eq_some_iff {cs : List Char} {column : Nat} {c : Char} :
    charAtUnit cs column = some c ↔
      ∃ front back, cs = front ++ c :: back ∧ utf16Length front ≤ column ∧
        column < utf16Length front + units16 c := by
  constructor
  · intro h
    induction cs generalizing column with
    | nil => cases h
    | cons d cs ih =>
        rw [charAtUnit] at h
        split at h
        · next hlt =>
            obtain rfl := Option.some_inj.1 h
            exact ⟨[], cs, rfl, Nat.zero_le _, by simpa using hlt⟩
        · next hge =>
            obtain ⟨front, back, rfl, hle, hlt⟩ := ih h
            refine ⟨d :: front, back, rfl, ?_, ?_⟩
            · rw [utf16Length_cons]
              omega
            · rw [utf16Length_cons]
              omega
  · rintro ⟨front, back, rfl, hle, hlt⟩
    obtain ⟨offset, rfl⟩ := Nat.exists_eq_add_of_le hle
    rw [charAtUnit_append_right, charAtUnit, if_pos (by omega)]

/-- No character covers a column at the end of a row or beyond. -/
theorem lt_of_charAtUnit {cs : List Char} {column : Nat} {c : Char}
    (h : charAtUnit cs column = some c) : column < utf16Length cs := by
  obtain ⟨front, back, rfl, -, hlt⟩ := charAtUnit_eq_some_iff.1 h
  rw [utf16Length_append, utf16Length_cons]
  omega

/-! ### Separators -/

/-- Whether a column of a row lies on a blank right behind a comma. -/
def OnSeparator (row : List Char) (column : Nat) : Prop :=
  ∃ front back, row = front ++ ',' :: ' ' :: back ∧ column = utf16Length front + 1

/-- **A separator, seen from its two units.** -/
theorem onSeparator_iff {row : List Char} {column : Nat} :
    OnSeparator row column ↔ 0 < column ∧ charAtUnit row (column - 1) = some ',' ∧
      charAtUnit row column = some ' ' := by
  have hcomma : units16 ',' = 1 := rfl
  have hblank : units16 ' ' = 1 := rfl
  constructor
  · rintro ⟨front, back, rfl, rfl⟩
    refine ⟨Nat.succ_pos _, ?_, ?_⟩
    · exact charAtUnit_eq_some_iff.2 ⟨front, ' ' :: back, rfl, by omega, by omega⟩
    · refine charAtUnit_eq_some_iff.2 ⟨front ++ [','], back, by simp, ?_, ?_⟩
      · simp [hcomma]
      · simp [hcomma, hblank]
  · rintro ⟨hpos, hbefore, hhere⟩
    obtain ⟨front, rest, rfl, hle, hlt⟩ := charAtUnit_eq_some_iff.1 hbefore
    obtain rfl : column = utf16Length front + 1 := by omega
    -- behind the comma the row goes on with the character that covers the column
    rw [charAtUnit_append_right, charAtUnit, if_neg (by omega), hcomma, Nat.sub_self] at hhere
    cases rest with
    | nil => cases hhere
    | cons c back =>
        rw [charAtUnit, if_pos (units16_pos c)] at hhere
        obtain rfl := Option.some_inj.1 hhere
        exact ⟨front, back, rfl, rfl⟩

theorem OnSeparator.lt {row : List Char} {column : Nat} (h : OnSeparator row column) :
    column < utf16Length row :=
  lt_of_charAtUnit (onSeparator_iff.1 h).2.2

/-- Right behind a separator's comma there is no other separator. -/
theorem OnSeparator.not_pred {row : List Char} {column : Nat} (h : OnSeparator row (column + 1)) :
    ¬ OnSeparator row column := by
  intro hbefore
  have hcomma := (onSeparator_iff.1 h).2.1
  have hblank := (onSeparator_iff.1 hbefore).2.2
  rw [Nat.add_sub_cancel, hblank] at hcomma
  cases hcomma

end Text

namespace Placement

open Text

variable {host : Host} {line : Nat} {row : String}

theorem ontoSeparator_of_onSeparator (hrow : host.lineText line = some row) {column : Nat}
    (h : OnSeparator row.toList column) : ontoSeparator host line column = column - 1 := by
  rw [ontoSeparator, if_pos]
  simpa [Host.charAt, hrow] using onSeparator_iff.1 h

theorem ontoSeparator_of_not_onSeparator (hrow : host.lineText line = some row) {column : Nat}
    (h : ¬ OnSeparator row.toList column) : ontoSeparator host line column = column := by
  rw [ontoSeparator, if_neg]
  simpa [Host.charAt, hrow] using fun hparts => h (onSeparator_iff.2 hparts)

/-- Adjusting a column and moving it to the end of the row is the same as moving it there and adjusting it: a
column beyond the end is on no separator. -/
theorem min_ontoSeparator (hrow : host.lineText line = some row) (column : Nat) :
    let plain := min column (utf16Length row.toList)
    let adjusted := min (ontoSeparator host line column) (utf16Length row.toList)
    (OnSeparator row.toList plain ∧ adjusted + 1 = plain) ∨
      (¬ OnSeparator row.toList plain ∧ adjusted = plain) := by
  intro plain adjusted
  by_cases hon : OnSeparator row.toList column
  · have hlt := hon.lt
    have hpos := (onSeparator_iff.1 hon).1
    have hplain : plain = column := Nat.min_eq_left (Nat.le_of_lt hlt)
    have hadjusted : adjusted = column - 1 := by
      simp only [adjusted, ontoSeparator_of_onSeparator hrow hon]
      omega
    left
    exact ⟨by rwa [hplain], by omega⟩
  · have hadjusted : adjusted = plain := by
      simp only [adjusted, plain, ontoSeparator_of_not_onSeparator hrow hon]
    right
    refine ⟨fun hplain => hon ?_, hadjusted⟩
    have hlt := hplain.lt
    have heq : plain = column := by omega
    rwa [← heq]

theorem toHost_eq (placement : Placement) (column : Nat) (adjust : Bool)
    (hrow : host.lineText (placement.hostLine line) = some row) :
    placement.toHost host line column adjust =
      some { line := placement.hostLine line
             column := min (if adjust then
                 ontoSeparator host (placement.hostLine line) (placement.hostColumn line column)
               else placement.hostColumn line column) (utf16Length row.toList) } := by
  rw [toHost, Host.lineLength, hrow, Option.map_some, Option.map_some]

/-- A place on its row and off separators stays where it is. -/
theorem toHost_zero {column : Nat} (hrow : host.lineText line = some row)
    (hwords : line < Word.size ∧ column < Word.size)
    (hle : column ≤ utf16Length row.toList) (hon : ¬ OnSeparator row.toList column) :
    toHost ⟨0, 0, 0⟩ host line column true = some ⟨line, column⟩ := by
  have hline : hostLine ⟨0, 0, 0⟩ line = line := by
    rw [hostLine_of_lt (by simpa using hwords.1), Nat.zero_add]
  have hcolumn : hostColumn ⟨0, 0, 0⟩ line column = column := by
    rw [hostColumn_of_lt (by simpa using hwords.2), ite_self]
    rfl
  rw [toHost_eq _ column true (hline.symm ▸ hrow), hline, hcolumn, if_pos rfl,
    ontoSeparator_of_not_onSeparator hrow hon, Nat.min_eq_left hle]

/-- **Where a snippet position comes to lie.**  There is no place for it exactly if its line is not in the host.
Else it lies on that line, and its column is the sum of the columns, or the end of the line if that comes
first; both sums are words.  If separators are adjusted, it lies one column further left exactly if it would
be on the blank of a separator; it is on no such blank then, and adjusting it once more leaves it where it
is. -/
theorem toHost_off_separators (placement : Placement) (host : Host) (line column : Nat)
    (adjust : Bool) (hlines : placement.startLine + line < Word.size)
    (hcolumns : column + placement.removedIndent
      + (if line = 0 then placement.firstLineColumn else 0) < Word.size) :
    (placement.toHost host line column adjust = none ↔
        host.lineCount ≤ placement.startLine + line) ∧
      ∀ row, host.lineText (placement.startLine + line) = some row →
        ∃ place, placement.toHost host line column adjust = some place ∧
          place.line = placement.startLine + line ∧
          let length := utf16Length row.toList
          let plain := min (column + placement.removedIndent
            + if line = 0 then placement.firstLineColumn else 0) length
          place.column ≤ length ∧
          (adjust = false → place.column = plain) ∧
          (adjust = true →
            ((OnSeparator row.toList plain ∧ place.column + 1 = plain) ∨
              (¬ OnSeparator row.toList plain ∧ place.column = plain)) ∧
            ¬ OnSeparator row.toList place.column ∧
            toHost ⟨0, 0, 0⟩ host place.line place.column true = some place) := by
  have hline := hostLine_of_lt hlines
  have hcolumn := hostColumn_of_lt hcolumns
  constructor
  · have hnone : placement.toHost host line column adjust = none ↔
        ¬ ∃ place, placement.toHost host line column adjust = some place := by
      rw [← Option.isSome_iff_exists, Option.not_isSome_iff_eq_none]
    rw [hnone, exists_toHost_iff, Nat.not_lt, hline]
  · intro row hrow
    have hplace := toHost_eq placement column adjust (hline ▸ hrow)
    rw [hline] at hplace
    refine ⟨_, hplace, rfl, Nat.min_le_right _ _, ?_, ?_⟩
    · rintro rfl
      rw [if_neg Bool.false_ne_true, hcolumn]
    · rintro rfl
      have hmoved := min_ontoSeparator hrow (placement.hostColumn line column)
      rw [hcolumn] at hmoved ⊢
      have hoff : ¬ OnSeparator row.toList
          (min (ontoSeparator host (placement.startLine + line)
            (column + placement.removedIndent
              + if line = 0 then placement.firstLineColumn else 0))
            (utf16Length row.toList)) := by
        rcases hmoved with ⟨hon, hback⟩ | ⟨hoff, hstay⟩
        · rw [← hback] at hon
          exact hon.not_pred
        · rwa [hstay]
      have hwords : placement.startLine + line < Word.size ∧
          min (ontoSeparator host (placement.startLine + line)
            (column + placement.removedIndent
              + if line = 0 then placement.firstLineColumn else 0))
            (utf16Length row.toList) < Word.size := by
        refine ⟨hlines, ?_⟩
        rcases hmoved with ⟨-, hback⟩ | ⟨-, hstay⟩ <;> omega
      exact ⟨hmoved, hoff, toHost_zero hrow hwords (Nat.min_le_right _ _) hoff⟩

/-- The blank of a separator behind a character of two units. -/
theorem toHost_off_separators_surrogate :
    ∃ host : Host, ∃ row : String, host = ⟨"App.svelte", "<p>\n  f(\"🎉\", b)\n"⟩ ∧
      host.lineText 1 = some row ∧ OnSeparator row.toList 9 ∧
      ∃ place, toHost ⟨1, 2, 0⟩ host 0 7 true = some place ∧ place = ⟨1, 8⟩ ∧
        toHost ⟨0, 0, 0⟩ host place.line place.column true = some place := by
  have hrow : Host.lineText ⟨"App.svelte", "<p>\n  f(\"🎉\", b)\n"⟩ 1 = some "  f(\"🎉\", b)" := by
    decide +kernel
  have hon : OnSeparator "  f(\"🎉\", b)".toList 9 :=
    ⟨"  f(\"🎉\"".toList, "b)".toList, by decide +kernel, by decide +kernel⟩
  obtain ⟨⟨hostLine, hostColumn⟩, hplace, hline, -, -, hadjusted⟩ :=
    (toHost_off_separators ⟨1, 2, 0⟩ ⟨"App.svelte", "<p>\n  f(\"🎉\", b)\n"⟩ 0 7 true
      (by decide) (by decide)).2 _ hrow
  obtain ⟨hmoved, -, hstays⟩ := hadjusted rfl
  have hplain : min (7 + 2 + if 0 = 0 then 0 else 0) (utf16Length "  f(\"🎉\", b)".toList) = 9 := by
    decide +kernel
  have hcolumn : hostColumn = 8 := by
    rw [hplain] at hmoved
    rcases hmoved with ⟨-, hback⟩ | ⟨hoff, -⟩
    · exact Nat.succ.inj hback
    · exact absurd hon hoff
  exact ⟨_, _, rfl, hrow, hon, _, hplace, by simp [hcolumn, show hostLine = 1 from hline], hstays⟩

end Placement

end Inlay
