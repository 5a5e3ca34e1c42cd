/-
**The shortcut for code without loops.**

Code is walked only if it matches the loop pattern; other code is said to hold no loops without having been
read.  The default pattern asks for the word `for` and a parenthesis with nothing but white space between
them.  The grammar allows more there: the word `await`, comments, and three invisible characters that it
takes for white space and Unicode does not.  So a loop whose header has none of these is never missed, and a
code whose loops all have one of them may be passed over although a walk would find anchors in it.

Main definitions:

* `Inlay.Syntax.invisible` — the characters that are white space to the grammar only;
* `Inlay.Syntax.Veiled` — **what hides a header from the pattern**.

Main results:

* `Inlay.Syntax.IsLoopGap.isSpace_or_veiled` — the gap of a header is white space, or it hides the header;
* `Inlay.analyze_shortcut` — **what the shortcut passes over**, for every reader of syntax trees whose loops
  stand at headers;
* `Inlay.analyze_misses_await` — a loop that it misses.
-/
import Inlay.Proofs.Grammar
import Inlay.Proofs.Matching

set_option autoImplicit false

namespace Inlay

namespace Syntax

/-! ### White space -/

/-- The characters that are white space to the grammar and to nobody else: the zero width space, the word
joiner and the byte order mark. -/
def invisible : List Char :=
  ['\u200b', '\u2060', '\ufeff']

/-- Blanks of all scripts are white space. -/
theorem isSpace_of_spaceSeparator {c : Char}
    (h : Unicode.Category.holds .spaceSeparator c.toNat = true) : Unicode.isSpace c = true := by
  have hblank : c.toNat = 0x20 ∨ c.toNat = 0xA0 ∨ c.toNat = 0x1680 ∨
      (0x2000 ≤ c.toNat ∧ c.toNat ≤ 0x200A) ∨ c.toNat = 0x202F ∨ c.toNat = 0x205F ∨
      c.toNat = 0x3000 := by
    have hruns : Unicode.Table.spaceSeparator.contains c.toNat = true := h
    simp [Unicode.Table.spaceSeparator, Unicode.Runs.contains, Nat.mod_one] at hruns
    omega
  simp only [Unicode.isSpace]
  split
  · simp
    omega
  · simp [Unicode.Table.wideSpace, Unicode.Runs.contains, Nat.mod_one]
    omega

theorem isSpace_or_invisible {c : Char} (h : isSpace c = true) :
    Unicode.isSpace c = true ∨ c ∈ invisible := by
  rw [isSpace, Bool.or_eq_true, List.contains_iff_mem] at h
  rcases h with hlisted | hblank
  · have hall : [' ', '\t', '\n', '\r', '\x0b', '\x0c', '\u200b', '\u2028', '\u2029', '\u2060',
        '\ufeff'].all (fun c => Unicode.isSpace c || invisible.contains c) = true := by
      decide
    rw [List.all_eq_true] at hall
    simpa using hall c hlisted
  · exact Or.inl (isSpace_of_spaceSeparator hblank)

/-! ### Hidden headers -/

/-- What may hide the header of a loop: the word `await`, a comment or an invisible character between the
word `for` and the parenthesis. -/
def Veiled (gap : List Char) : Prop :=
  "await".toList <:+: gap ∨ (∃ text, IsComment text ∧ text <:+: gap) ∨ ∃ c ∈ gap, c ∈ invisible

theorem IsGap.isSpace_or_veiled {gap : List Char} (h : IsGap gap) :
    (∀ c ∈ gap, Unicode.isSpace c = true) ∨ Veiled gap := by
  induction h with
  | nil => exact Or.inl (by simp)
  | @space c rest hc _ ih =>
      rcases isSpace_or_invisible hc with hspace | hinvisible
      · rcases ih with hrest | hawait | ⟨text, htext, hinfix⟩ | ⟨d, hd, hinvisible⟩
        · exact Or.inl (List.forall_mem_cons.2 ⟨hspace, hrest⟩)
        · exact Or.inr (Or.inl (List.infix_cons hawait))
        · exact Or.inr (Or.inr (Or.inl ⟨text, htext, List.infix_cons hinfix⟩))
        · exact Or.inr (Or.inr (Or.inr ⟨d, List.mem_cons_of_mem _ hd, hinvisible⟩))
      · exact Or.inr (Or.inr (Or.inr ⟨c, List.mem_cons_self, hinvisible⟩))
  | @comment text rest htext _ _ =>
      exact Or.inr (Or.inr (Or.inl ⟨text, htext, (List.prefix_append text rest).isInfix⟩))

/-- What stands between the word `for` and the parenthesis of a loop is white space, or it hides the
header. -/
theorem IsLoopGap.isSpace_or_veiled {gap : List Char} (h : IsLoopGap gap) :
    (∀ c ∈ gap, Unicode.isSpace c = true) ∨ Veiled gap := by
  rcases h with hgap | ⟨before, after, rfl, _, _⟩
  · exact hgap.isSpace_or_veiled
  · exact Or.inr (Or.inl (List.infix_append' before "await".toList after))

/-- A header that is not hidden is seen. -/
theorem LoopHeader.mayLoop_or_veiled {code : String} {offset : Nat} {gap : List Char}
    (h : LoopHeader code.toList offset gap) : Rules.standard.mayLoop code = true ∨ Veiled gap := by
  obtain ⟨front, back, hcode, _, hgap⟩ := h
  rcases hgap.isSpace_or_veiled with hspace | hveiled
  · refine Or.inl (Rules.mayLoop_standard_iff.2 ⟨gap, hspace, front, back, ?_⟩)
    rw [hcode]
    simp
  · exact Or.inr hveiled

end Syntax

/-! ### The analysis of a code -/

/-- With the default rules code is either passed over or walked, whatever reads it. -/
theorem analyze_standard_eq {reader : SyntaxReader} {code : String} {root : Node}
    (hroot : reader code = .ok root) :
    analyze Rules.standard reader code =
      if Rules.standard.mayLoop code then ((Node.findings Rules.standard.isSynthetic {} root).analysis, [])
      else ({ status := .noLoops }, []) := by
  have hprotect : Rules.standard.protectLoops = true := rfl
  rw [analyze, hprotect, hroot]
  cases Rules.standard.mayLoop code <;> rfl

/-- The status says that a code was passed over exactly if it does not match the loop pattern. -/
theorem status_analyze_standard_iff {reader : SyntaxReader} {code : String} {root : Node}
    (hroot : reader code = .ok root) :
    (analyze Rules.standard reader code).1.status = .noLoops ↔
      ¬ Rules.standard.mayLoop code = true := by
  rw [analyze_standard_eq hroot]
  by_cases hmay : Rules.standard.mayLoop code = true
  · simp [hmay, Findings.analysis]
  · simp [hmay]

/-- **Code is passed over exactly if nowhere in it only white space stands between the word `for` and a
parenthesis**; all other code is walked.  So code is walked as soon as one loop of its tree has a header that
is not hidden.  The tree may come from any reader whose loops stand at headers of the code. -/
theorem analyze_shortcut (reader : SyntaxReader) (code : String) (root : Node)
    (hroot : reader code = .ok root) (hheaders : reader.ShowsHeaders code) :
    ((analyze Rules.standard reader code).1.status = .noLoops ↔
        ¬ ∃ blanks, (∀ c ∈ blanks, Unicode.isSpace c = true) ∧
          "for".toList ++ (blanks ++ ['(']) <:+: code.toList) ∧
      ((analyze Rules.standard reader code).1.status ≠ .noLoops →
        analyze Rules.standard reader code =
          ((Node.findings Rules.standard.isSynthetic {} root).analysis, [])) ∧
      ∀ loop kind declaration, Node.Within loop root → loop.kind = .iteration kind declaration →
        ∃ gap, Syntax.LoopHeader code.toList loop.range.start.offset gap ∧
          (¬ Syntax.Veiled gap → (analyze Rules.standard reader code).1.status ≠ .noLoops) := by
  have hstatus := status_analyze_standard_iff hroot
  refine ⟨?_, ?_, ?_⟩
  · rw [hstatus, Rules.mayLoop_standard_iff]
  · intro hne
    rw [Ne, hstatus, not_not] at hne
    rw [analyze_standard_eq hroot, if_pos hne]
  · intro loop kind declaration hwithin hkind
    obtain ⟨gap, hheader⟩ := hheaders root hroot loop kind declaration hwithin hkind
    refine ⟨gap, hheader, fun hbare => ?_⟩
    rw [Ne, hstatus, not_not]
    exact hheader.mayLoop_or_veiled.resolve_right hbare

/-- A line break in the header does not hide it. -/
theorem analyze_shortcut_line_break :
    ∃ (code : String) (root : Node),
      code = "for\n(const x of xs) f(x)" ∧ readSyntax code = .ok root ∧
      SyntaxReader.ShowsHeaders readSyntax code ∧
      (analyze Rules.standard readSyntax code).1.status ≠ .noLoops ∧
      analyze Rules.standard readSyntax code =
        ((Node.findings Rules.standard.isSynthetic {} root).analysis, []) := by
  have hroot := readSyntax_eq "for\n(const x of xs) f(x)"
  have hheaders := showsHeaders_readSyntax "for\n(const x of xs) f(x)"
  obtain ⟨hstatus, hwalk, _⟩ := analyze_shortcut readSyntax _ _ hroot hheaders
  have hshown : (analyze Rules.standard readSyntax "for\n(const x of xs) f(x)").1.status ≠ .noLoops := by
    rw [Ne, hstatus, not_not]
    refine ⟨['\n'], fun c hc => ?_, [], "const x of xs) f(x)".toList, by decide⟩
    rw [List.mem_singleton.1 hc]
    decide
  exact ⟨_, _, rfl, hroot, hheaders, hshown, hwalk hshown⟩

/-- The tree of a loop over promises: the program, the loop, and its binding, its iterable and its body. -/
def awaitTree : Node :=
  { kind := .other "program", range := ⟨⟨0, 0, 0⟩, ⟨28, 0, 28⟩⟩
    children := [
      { kind := .iteration .forOf (some "const"), range := ⟨⟨0, 0, 0⟩, ⟨28, 0, 28⟩⟩
        children := [
          { kind := .identifier "x", field := some "left", range := ⟨⟨17, 0, 17⟩, ⟨18, 0, 18⟩⟩ },
          { kind := .identifier "xs", field := some "right", range := ⟨⟨22, 0, 22⟩, ⟨24, 0, 24⟩⟩ },
          { kind := .block, field := some "body", range := ⟨⟨26, 0, 26⟩, ⟨28, 0, 28⟩⟩ }] }] }

/-- A loop over promises is passed over, although a walk finds a loop and two anchors. -/
theorem analyze_misses_await :
    ∃ code : String, code = "for await (const x of xs) \x7b\x7d" ∧ readSyntax code = .ok awaitTree ∧
      ∀ reader : SyntaxReader, reader code = .ok awaitTree →
        (∃ loop, Node.Within loop awaitTree ∧ loop.kind = .iteration .forOf (some "const")) ∧
        (Node.findings Rules.standard.isSynthetic {} awaitTree).analysis.anchors =
          [⟨"x", 0, 17, 18⟩, ⟨"xs", 0, 22, 24⟩] ∧
        analyze Rules.standard reader code = ({ status := .noLoops }, []) := by
  have hread : readSyntax "for await (const x of xs) \x7b\x7d" = .ok awaitTree := by
    rw [readSyntax_eq]
    rfl
  have hpattern : Rules.standard.mayLoop "for await (const x of xs) \x7b\x7d" = false := by
    decide +kernel
  refine ⟨_, rfl, hread, fun reader hreader => ⟨?_, ?_, ?_⟩⟩
  · exact ⟨_, .child List.mem_cons_self .root, rfl⟩
  · decide +kernel
  · rw [analyze_standard_eq hreader, hpattern, if_neg Bool.false_ne_true]

end Inlay
