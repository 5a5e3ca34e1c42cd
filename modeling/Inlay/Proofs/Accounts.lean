/-
**What becomes of the anchors.**

No anchor is lost in silence.  One whose name the compiler made up is passed over.  Any other is either
reported, once, with the reason why its name was not found in the host, or it gets two mappings, for its
start and its end.  These go to the host line of the first segment of its generated line, and to the columns
between which its name stands there.  The search gives a byte offset and a position map wants UTF-16
columns, so that this must hold whatever characters are on the line.

Main definitions:

* `Inlay.Text.Between` — the text between two UTF-16 columns of a line;
* `Inlay.Anchor.Missed` — **why the name of an anchor has no place in the host**;
* `Inlay.Anchor.Account` — **the mappings and reports of an anchor**.

Main results:

* `Inlay.Text.Between.unique` — there is one text between two columns;
* `Inlay.Anchor.resolve_cases` — an anchor is missed, or its name stands as a word on its host line;
* `Inlay.Anchor.exists_account` — each anchor has its account;
* `Inlay.overrides_accounts` — **the mappings and reports of all anchors are their accounts, in order**.
-/
import Inlay.Proofs.Host
import Inlay.Proofs.Words
import Mathlib.Data.List.Forall2

set_option autoImplicit false

namespace Inlay

/-! ### Columns of a line -/

namespace Text

/-- Whether a text stands on a line from one UTF-16 column up to another. -/
def Between (line : List Char) (start stop : Nat) (middle : List Char) : Prop :=
  ∃ front back, line = front ++ (middle ++ back) ∧ utf16Length front = start ∧
    utf16Length (front ++ middle) = stop

/-- Fronts of one text that are as long in UTF-16 units are the same. -/
theorem append_inj_of_utf16Length {front back front' back' : List Char}
    (h : front ++ back = front' ++ back') (hlength : utf16Length front = utf16Length front') :
    front = front' ∧ back = back' := by
  induction front generalizing front' with
  | nil =>
      cases front' with
      | nil => exact ⟨rfl, h⟩
      | cons c front' =>
          have := units16_pos c
          simp only [utf16Length_nil, utf16Length_cons] at hlength
          omega
  | cons c front ih =>
      cases front' with
      | nil =>
          have := units16_pos c
          simp only [utf16Length_nil, utf16Length_cons] at hlength
          omega
      | cons d front' =>
          obtain ⟨rfl, htail⟩ := List.cons.inj h
          obtain ⟨rfl, hback⟩ := ih htail (Nat.add_left_cancel hlength)
          exact ⟨rfl, hback⟩

/-- There is one text between two columns. -/
theorem Between.unique {line middle middle' : List Char} {start stop : Nat}
    (h : Between line start stop middle) (h' : Between line start stop middle') : middle = middle' := by
  obtain ⟨front, back, hline, hstart, hstop⟩ := h
  obtain ⟨front', back', hline', hstart', hstop'⟩ := h'
  obtain ⟨rfl, hrest⟩ := append_inj_of_utf16Length (hline.symm.trans hline') (hstart.trans hstart'.symm)
  refine (append_inj_of_utf16Length hrest ?_).1
  rw [utf16Length_append] at hstop hstop'
  omega

end Text

/-! ### One anchor -/

namespace Anchor

variable (map : NativeMap) (host : Host) (placement : Placement)

/-- Why the name of an anchor has no place in the host, with the report that says so. -/
inductive Missed (anchor : Anchor) : Diagnostic → Prop
  /-- The first segment of its line, if there is one, has no position. -/
  | noSegment
      (hsegment : ∀ delta source snippetLine snippetColumn nameIndex, map.firstSegment anchor.line ≠
        some (.mapped delta source snippetLine snippetColumn nameIndex)) :
      Missed anchor anchor.noSegment
  /-- The host has no such line. -/
  | outside {delta source snippetLine snippetColumn : Nat} {nameIndex : Option Nat}
      (hsegment : map.firstSegment anchor.line =
        some (.mapped delta source snippetLine snippetColumn nameIndex))
      (hline : host.lineCount ≤ placement.hostLine snippetLine) :
      Missed anchor (anchor.outside (placement.hostLine snippetLine))
  /-- The name is not a word of the host line. -/
  | notFound {delta source snippetLine snippetColumn : Nat} {nameIndex : Option Nat} {text : String}
      (hsegment : map.firstSegment anchor.line =
        some (.mapped delta source snippetLine snippetColumn nameIndex))
      (htext : host.lineText (placement.hostLine snippetLine) = some text)
      (hword : ∀ front back, text.toList = front ++ (anchor.name.toList ++ back) →
        ¬ Text.StandsAsWord anchor.name.toList front back) :
      Missed anchor (anchor.notFound (placement.hostLine snippetLine))

/-- The mappings and reports of an anchor. -/
inductive Account (analysis : Analysis) (anchor : Anchor) : List Mapping → List Diagnostic → Prop
  /-- Its name was made up. -/
  | synthetic (hname : analysis.isSynthetic anchor.name = true) : Account analysis anchor [] []
  /-- Its name has no place in the host. -/
  | reported {report : Diagnostic} (hname : analysis.isSynthetic anchor.name = false)
      (hmissed : Missed map host placement anchor report) : Account analysis anchor [] [report]
  /-- Its name stands between two columns of the host line of the first segment. -/
  | mapped {delta source snippetLine snippetColumn : Nat} {nameIndex : Option Nat} {text : String}
      {start stop : Nat} (hname : analysis.isSynthetic anchor.name = false)
      (hsegment : map.firstSegment anchor.line =
        some (.mapped delta source snippetLine snippetColumn nameIndex))
      (htext : host.lineText (placement.hostLine snippetLine) = some text)
      (hbetween : ∀ middle, Text.Between text.toList start stop middle ↔
        middle = anchor.name.toList) :
      Account analysis anchor
        [{ line := anchor.line, column := anchor.start, origin := .override,
           target := { line := placement.hostLine snippetLine, column := start,
                       name := some anchor.name } },
          { line := anchor.line, column := anchor.stop, origin := .override,
            target := { line := placement.hostLine snippetLine, column := stop,
                        name := some anchor.name } }] []

variable {map host placement} {anchor : Anchor}

/-- An anchor is missed, or its name stands as a word on the host line of the first segment. -/
theorem resolve_cases (anchor : Anchor) (map : NativeMap) (host : Host) (placement : Placement) :
    (∃ report, Missed map host placement anchor report ∧
      anchor.resolve map host placement = .error report) ∨
    ∃ delta source snippetLine snippetColumn nameIndex text front back,
      map.firstSegment anchor.line =
        some (.mapped delta source snippetLine snippetColumn nameIndex) ∧
      host.lineText (placement.hostLine snippetLine) = some text ∧
      Text.FirstPlace (Text.StandsAsWord anchor.name.toList) anchor.name.toList text.toList front back ∧
      anchor.resolve map host placement =
        .ok { line := placement.hostLine snippetLine, column := Text.utf16Length front } := by
  unfold resolve
  split
  · next delta source snippetLine snippetColumn nameIndex hsegment =>
      dsimp only
      split
      · next htext =>
          exact Or.inl ⟨_, .outside hsegment (Host.lineText_eq_none_iff.1 htext), rfl⟩
      · next text htext =>
          split
          · next hcolumn =>
              exact Or.inl ⟨_, .notFound hsegment htext (columnIn_eq_none_iff.1 hcolumn), rfl⟩
          · next column hcolumn =>
              obtain ⟨front, back, hfirst, rfl⟩ := columnIn_eq_some_iff.1 hcolumn
              exact Or.inr ⟨_, _, _, _, _, _, _, _, hsegment, htext, hfirst, rfl⟩
  · next hsegment =>
      exact Or.inl ⟨_, .noSegment fun _ _ _ _ _ heq => hsegment _ _ _ _ _ heq, rfl⟩

/-- The two columns of a name that stands somewhere on a line have the name between them. -/
theorem between_iff {line front back : List Char} (h : line = front ++ (anchor.name.toList ++ back))
    (middle : List Char) :
    Text.Between line (Text.utf16Length front)
        (Text.utf16Length front + Text.utf16Length anchor.name.toList) middle ↔
      middle = anchor.name.toList := by
  have hname : Text.Between line (Text.utf16Length front)
      (Text.utf16Length front + Text.utf16Length anchor.name.toList) anchor.name.toList :=
    ⟨front, back, h, rfl, Text.utf16Length_append _ _⟩
  constructor
  · intro hmiddle
    exact hmiddle.unique hname
  · rintro rfl
    exact hname

/-- Each anchor has its account, and what comes behind it does not matter for that. -/
theorem exists_account (analysis : Analysis) (map : NativeMap) (host : Host) (placement : Placement)
    (anchor : Anchor) :
    ∃ mappings reports, Account map host placement analysis anchor mappings reports ∧
      ∀ rest, overridesOf analysis map host placement (anchor :: rest) =
        (mappings ++ (overridesOf analysis map host placement rest).1,
          reports ++ (overridesOf analysis map host placement rest).2) := by
  cases hname : analysis.isSynthetic anchor.name with
  | true =>
      refine ⟨[], [], .synthetic hname, ?_⟩
      intro rest
      simp [overridesOf, hname]
  | false =>
      rcases resolve_cases anchor map host placement with
        ⟨report, hmissed, hresolve⟩ |
        ⟨_, _, _, _, _, text, front, back, hsegment, htext, hfirst, hresolve⟩
      · refine ⟨[], [report], .reported hname hmissed, ?_⟩
        intro rest
        simp [overridesOf, hname, hresolve]
      · refine ⟨_, [], .mapped hname hsegment htext (between_iff hfirst.parts), ?_⟩
        intro rest
        simp [overridesOf, hname, hresolve, mappings, mapping]

end Anchor

/-! ### All anchors -/

section Accounts

variable (analysis : Analysis) (map : NativeMap) (host : Host) (placement : Placement)

theorem exists_accounts (anchors : List Anchor) :
    ∃ accounts : List (List Mapping × List Diagnostic),
      List.Forall₂ (fun anchor account =>
        Anchor.Account map host placement analysis anchor account.1 account.2) anchors accounts ∧
      overridesOf analysis map host placement anchors =
        (accounts.flatMap (·.1), accounts.flatMap (·.2)) := by
  induction anchors with
  | nil => exact ⟨[], .nil, rfl⟩
  | cons anchor rest ih =>
      obtain ⟨accounts, haccounts, hrest⟩ := ih
      obtain ⟨mappings, reports, haccount, hcons⟩ :=
        Anchor.exists_account analysis map host placement anchor
      refine ⟨(mappings, reports) :: accounts, .cons haccount haccounts, ?_⟩
      rw [hcons, hrest, List.flatMap_cons, List.flatMap_cons]

/-- **The mappings and reports of the anchors of an analysis are their accounts, one after the other.**
An anchor with a made-up name has neither mappings nor reports.  Any other has one report and no mapping,
or no report and two mappings that carry its name, at its start and at its end.  In the second case both go
to the host line of the first segment of the anchor's line, and the text between their columns is the name,
and nothing else. -/
theorem overrides_accounts :
    ∃ accounts : List (List Mapping × List Diagnostic),
      List.Forall₂ (fun anchor account =>
        Anchor.Account map host placement analysis anchor account.1 account.2)
        analysis.anchors accounts ∧
      (overrides analysis map host placement).1 = accounts.flatMap (·.1) ∧
      (overrides analysis map host placement).2 = accounts.flatMap (·.2) := by
  obtain ⟨accounts, haccounts, hoverrides⟩ :=
    exists_accounts analysis map host placement analysis.anchors
  rw [overrides, hoverrides]
  exact ⟨accounts, haccounts, rfl, rfl⟩

end Accounts

end Inlay
