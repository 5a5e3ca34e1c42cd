/-
**Looking up an identifier of a loop.**

An anchor gets its host position from the host text and not from the compiler's segments.  That this is
what a consumer sees takes all of the stages: the columns of an anchor are protected, so that the walk
leaves nothing behind its start; at its start the override is kept, whatever the walk has put there; and
a lookup goes back to the last mapping before it.

Main definitions:

* `Inlay.Anchor.Undisturbed` — no other anchor begins or ends in the columns of an anchor.

Main results:

* `Inlay.mem_overridesOf` — an anchor whose name was found is mapped;
* `Inlay.protected_of_mem_anchors` — the inside of an anchor is protected;
* `Inlay.Normalizer.covers_anchor` — the start of an anchor covers its columns;
* `Inlay.Normalizer.lookup_anchor` — **every column of an anchor is looked up as its name in the host**.
-/
import Inlay.Proofs.Guarded
import Inlay.Proofs.Lookup

set_option autoImplicit false

namespace Inlay

/-! ### Anchors whose names are found -/

namespace Anchor

/-- No other anchor of the line begins or ends in the columns of an anchor. -/
def Undisturbed (anchors : List Anchor) (anchor : Anchor) : Prop :=
  ∀ other ∈ anchors, other ≠ anchor → other.line = anchor.line →
    ¬ (anchor.start ≤ other.start ∧ other.start < anchor.stop) ∧
    ¬ (anchor.start ≤ other.stop ∧ other.stop < anchor.stop)

instance (anchors : List Anchor) (anchor : Anchor) : Decidable (Undisturbed anchors anchor) :=
  inferInstanceAs (Decidable (∀ other ∈ anchors, _))

variable {anchor : Anchor} {map : NativeMap} {host : Host} {placement : Placement}

/-- The name of an anchor is searched on the host line of the first segment. -/
theorem resolve_of_columnIn {delta source snippetLine snippetColumn column : Nat}
    {nameIndex : Option Nat} {text : String}
    (hsegment : map.firstSegment anchor.line =
      some (.mapped delta source snippetLine snippetColumn nameIndex))
    (htext : host.lineText (placement.hostLine snippetLine) = some text)
    (hcolumn : columnIn anchor.name text = some column) :
    anchor.resolve map host placement =
      .ok { line := placement.hostLine snippetLine, column := column } := by
  rw [resolve_eq hsegment htext, hcolumn]

end Anchor

/-- An anchor whose name was found, and was not made up, is mapped. -/
theorem mem_overridesOf {analysis : Analysis} {map : NativeMap} {host : Host} {placement : Placement}
    {anchors : List Anchor} {anchor : Anchor} {place : HostPosition} {m : Mapping}
    (hanchor : anchor ∈ anchors) (hname : analysis.isSynthetic anchor.name = false)
    (hresolve : anchor.resolve map host placement = .ok place) (hm : m ∈ anchor.mappings place) :
    m ∈ (overridesOf analysis map host placement anchors).1 := by
  induction anchors with
  | nil => cases hanchor
  | cons first rest ih =>
      rw [overridesOf]
      dsimp only
      rcases List.mem_cons.1 hanchor with rfl | hrest
      · rw [hname, hresolve]
        exact List.mem_append.2 (Or.inl hm)
      · split
        · exact ih hrest
        · cases first.resolve map host placement with
          | error report => exact ih hrest
          | ok other => exact List.mem_append.2 (Or.inr (ih hrest))

/-! ### The columns of an anchor -/

section Analyze

variable {rules : Rules} {reader : SyntaxReader} {code : String} {anchor : Anchor}

/-- The anchors of an analysis come from a walk over the tree. -/
theorem exists_findings_of_mem_anchors (h : anchor ∈ (analyze rules reader code).1.anchors) :
    ∃ root, reader code = .ok root ∧
      (analyze rules reader code).1 = (Node.findings rules.isSynthetic {} root).analysis ∧
      anchor ∈ (Node.findings rules.isSynthetic {} root).anchors ∧
      (analyze rules reader code).1.isSynthetic anchor.name = false := by
  rcases analyze_cases rules reader code with ⟨status, _, hempty⟩ | ⟨root, hroot, hfound⟩
  · rw [hempty] at h
    cases h
  · rw [hfound] at h ⊢
    exact ⟨root, hroot, rfl, Findings.mem_anchors_analysis.1 h⟩

/-- The inside of an anchor is protected. -/
theorem protected_of_mem_anchors (h : anchor ∈ (analyze rules reader code).1.anchors) {column : Nat}
    (hlow : anchor.start < column) (hhigh : column < anchor.stop) :
    (analyze rules reader code).1.protection.containsStrictly anchor.line column = true := by
  obtain ⟨root, _, hfound, hanchor, _⟩ := exists_findings_of_mem_anchors h
  rw [hfound]
  exact Protection.containsStrictly_of_mem (Node.columns_mem_ranges _ hanchor) hlow hhigh

end Analyze

/-- On the line of an anchor only the first segment counts. -/
theorem Walk.kept_of_mem_anchors {walk : Walk} {anchor : Anchor}
    (h : anchor ∈ walk.analysis.anchors) (segments : List Segment) :
    walk.kept anchor.line segments = segments.take 1 := by
  refine if_pos ?_
  rw [List.contains_iff_mem, Analysis.anchorLines, mem_sortedDistinct]
  exact List.mem_append.2 (Or.inl (List.mem_map.2 ⟨anchor, h, rfl⟩))

/-! ### Lookups -/

namespace Normalizer

section Covers

variable {normalizer : Normalizer} {code : String} {map : NativeMap} {host : Host}
  {placement : Placement} {anchor : Anchor} {place : HostPosition}

/-- An override in the columns of an undisturbed anchor is that of the anchor's start. -/
theorem eq_of_mem_overrides
    (halone : anchor.Undisturbed (analyze normalizer.rules normalizer.reader code).1.anchors)
    (hresolve : anchor.resolve map host placement = .ok place) {m : Mapping}
    (hm : m ∈ (normalizer.passes code map host placement).2.1) (hline : m.line = anchor.line)
    (hlow : anchor.start ≤ m.column) (hhigh : m.column < anchor.stop) :
    m = anchor.mapping anchor.start place := by
  rw [passes_snd] at hm
  obtain ⟨other, hother, found, hfound, hm⟩ := exists_of_mem_overrides hm
  obtain ⟨hotherLine, hotherColumn, _⟩ := Anchor.of_mem_mappings hm
  by_cases hsame : other = anchor
  · subst hsame
    obtain rfl : found = place := Except.ok.inj (hfound.symm.trans hresolve)
    rcases List.mem_cons.1 hm with rfl | hm
    · rfl
    · -- the mapping of its end is not in its columns
      obtain rfl := List.mem_singleton.1 hm
      exact absurd hhigh (Nat.lt_irrefl _)
  · obtain ⟨hstart, hstop⟩ := halone other hother hsame (hotherLine.symm.trans hline)
    rcases hotherColumn with hcolumn | hcolumn
    · rw [hcolumn] at hlow hhigh
      exact absurd ⟨hlow, hhigh⟩ hstart
    · rw [hcolumn] at hlow hhigh
      exact absurd ⟨hlow, hhigh⟩ hstop

/-- The start of an anchor covers its columns. -/
theorem covers_anchor
    (hanchor : anchor ∈ (analyze normalizer.rules normalizer.reader code).1.anchors)
    (halone : anchor.Undisturbed (analyze normalizer.rules normalizer.reader code).1.anchors)
    (hresolve : anchor.resolve map host placement = .ok place) {column : Nat}
    (hlow : anchor.start ≤ column) (hhigh : column < anchor.stop) :
    Mapping.Covers (Mapping.merge (normalizer.passes code map host placement).1
        (normalizer.passes code map host placement).2.1)
      anchor.line column (anchor.mapping anchor.start place) := by
  have hstart : anchor.start < anchor.stop := Nat.lt_of_le_of_lt hlow hhigh
  have hinserted : anchor.mapping anchor.start place ∈
      (normalizer.passes code map host placement).2.1 := by
    obtain ⟨_, _, _, _, hname⟩ := exists_findings_of_mem_anchors hanchor
    exact mem_overridesOf hanchor hname hresolve (List.mem_cons_self ..)
  refine ⟨?_, rfl, hlow, ?_⟩
  · refine Mapping.mem_merge_of_isOverride (List.mem_append.2 (Or.inr hinserted)) rfl ?_
    intro other hother horigin hline hcolumn
    rcases List.mem_append.1 hother with hcoalesced | hoverride
    · rw [Mapping.isOverride, Walk.origin_of_mem_coalesce hcoalesced] at horigin
      cases horigin
    · exact eq_of_mem_overrides halone hresolve hoverride hline hcolumn.ge (hcolumn.trans_lt hstart)
  · intro other hother hline hcolumn
    by_contra hbehind
    have hinside : anchor.start < other.column := Nat.lt_of_not_le hbehind
    have hbefore : other.column < anchor.stop := Nat.lt_of_le_of_lt hcolumn hhigh
    rcases Mapping.mem_of_mem_merge hother with hcoalesced | hoverride
    · -- the walk leaves nothing inside the anchor
      have hguarded := (Walk.guarded_of_mem_coalesce hcoalesced).unprotected
      rw [hline] at hguarded
      have hprotected := protected_of_mem_anchors hanchor hinside hbefore
      exact Bool.false_ne_true (hguarded.symm.trans hprotected)
    · rw [eq_of_mem_overrides halone hresolve hoverride hline hinside.le hbefore] at hinside
      exact Nat.lt_irrefl _ hinside

end Covers

/-- **Every column of an anchor is looked up as its name in the host.**  The first segment of the anchor's
line names a snippet line, and the name stands as a word on the host line of that; no other anchor of the
generated line begins or ends in the columns of this one. -/
theorem lookup_anchor (normalizer : Normalizer) (code : String) (map : NativeMap) (host : Host)
    (placement : Placement) {anchor : Anchor}
    (hanchor : anchor ∈ (analyze normalizer.rules normalizer.reader code).1.anchors)
    (halone : anchor.Undisturbed (analyze normalizer.rules normalizer.reader code).1.anchors)
    {delta source snippetLine snippetColumn : Nat} {nameIndex : Option Nat}
    (hsegment : map.firstSegment anchor.line =
      some (.mapped delta source snippetLine snippetColumn nameIndex))
    {text : String} (htext : host.lineText (placement.hostLine snippetLine) = some text)
    {hostColumn : Nat} (hfound : Anchor.columnIn anchor.name text = some hostColumn)
    (hfits : ∀ m ∈ Mapping.merge (normalizer.passes code map host placement).1
      (normalizer.passes code map host placement).2.1, m.Fits)
    (hcount : (Mapping.merge (normalizer.passes code map host placement).1
      (normalizer.passes code map host placement).2.1).length ≤ 2 ^ 63)
    {column : Nat} (hlow : anchor.start ≤ column) (hhigh : column < anchor.stop) :
    (normalizer.normalize code map host placement).1.lookup (anchor.line + 1) column =
      .ok (some { source := host.path, line := placement.hostLine snippetLine + 1,
                  column := hostColumn, name := some anchor.name }) := by
  have hresolve := Anchor.resolve_of_columnIn hsegment htext hfound
  exact PositionMap.lookup_of_covers host hfits hcount
    (covers_anchor hanchor halone hresolve hlow hhigh)

/-- The walk puts a mapping of its own at the start of `item`; all columns of it are looked up as the word
in the host. -/
theorem lookup_anchor_item :
    ∃ (code : String) (map : NativeMap) (host : Host) (anchor : Anchor),
      code = "for (let item of a) f(item)" ∧ map = .ofLines [[[9, 0, 1, 0], [2, 0, 1, 2]]] none ∧
      host = ⟨"App.svelte", "<script>\nfor item of a\n  f item\n"⟩ ∧ anchor = ⟨"item", 0, 9, 13⟩ ∧
      (analyze Rules.standard readSyntax code).1.anchors = [anchor, ⟨"a", 0, 17, 18⟩] ∧
      (passes ⟨Rules.standard, readSyntax⟩ code map host ⟨0, 0, 0⟩).1 =
        [⟨0, 9, ⟨1, 0, none⟩, .coalesced⟩] ∧
      ∀ column, 9 ≤ column → column < 13 →
        (normalize ⟨Rules.standard, readSyntax⟩ code map host ⟨0, 0, 0⟩).1.lookup 1 column =
          .ok (some { source := host.path, line := 2, column := 4, name := some "item" }) := by
  have hanchors : (analyze Rules.standard readSyntax "for (let item of a) f(item)").1.anchors =
      [⟨"item", 0, 9, 13⟩, ⟨"a", 0, 17, 18⟩] := by
    decide +kernel
  have hfindings : (readSyntax "for (let item of a) f(item)").toOption.map
      (Node.findings Rules.standard.isSynthetic {}) =
        some ⟨[⟨0, 9, 13⟩, ⟨0, 17, 18⟩], [⟨"item", 0, 9, 13⟩, ⟨"a", 0, 17, 18⟩], []⟩ := by
    decide +kernel
  refine ⟨_, _, _, _, rfl, rfl, rfl, rfl, hanchors, ?_⟩
  generalize "for (let item of a) f(item)" = code at hanchors hfindings ⊢
  generalize hmap : NativeMap.ofLines [[[9, 0, 1, 0], [2, 0, 1, 2]]] none = map
  generalize hhost : Host.mk "App.svelte" "<script>\nfor item of a\n  f item\n" = host
  have hmem : ⟨"item", 0, 9, 13⟩ ∈ (analyze Rules.standard readSyntax code).1.anchors := by
    rw [hanchors]
    exact List.mem_cons_self ..
  have hanalysis : (analyze Rules.standard readSyntax code).1 =
      { protection := ⟨[⟨0, [⟨9, 13⟩, ⟨17, 18⟩]⟩]⟩,
        anchors := [⟨"item", 0, 9, 13⟩, ⟨"a", 0, 17, 18⟩], status := .completed } := by
    obtain ⟨root, hroot, hfound, _⟩ := exists_findings_of_mem_anchors hmem
    rw [hroot] at hfindings
    rw [hfound, Option.some.inj hfindings]
    simp [Findings.analysis, Protection.ofRanges, Protection.linesOf, Protection.spansOn,
      ProtectedRange.span, Span.notAfter, Span.join, Span.joinFrom, sortedDistinct, List.mergeSort,
      List.eraseReps, List.eraseRepsBy, List.eraseRepsBy.loop]
  have hwalk : (passes ⟨Rules.standard, readSyntax⟩ code map host ⟨0, 0, 0⟩).1 =
      [⟨0, 9, ⟨1, 0, none⟩, .coalesced⟩] := by
    have hfirst : ((walk ⟨Rules.standard, readSyntax⟩ code map host ⟨0, 0, 0⟩).line 0 0 none
        [.mapped 9 0 1 0 none]).1 = [⟨0, 9, ⟨1, 0, none⟩, .coalesced⟩] := by
      rw [walk]
      dsimp only
      rw [hanalysis, ← hmap, ← hhost]
      decide +kernel
    have hkept := Walk.kept_of_mem_anchors (show ⟨"item", 0, 9, 13⟩ ∈
      (walk ⟨Rules.standard, readSyntax⟩ code map host ⟨0, 0, 0⟩).analysis.anchors from hmem)
    have hlines : (walk ⟨Rules.standard, readSyntax⟩ code map host ⟨0, 0, 0⟩).map.lines =
        [[.mapped 9 0 1 0 none, .mapped 2 0 1 2 none]] := hmap ▸ rfl
    rw [passes_fst, Walk.coalesce, hlines]
    simp only [Walk.linesFrom, hkept, List.append_nil]
    exact hfirst
  have hoverrides : (passes ⟨Rules.standard, readSyntax⟩ code map host ⟨0, 0, 0⟩).2.1 =
      [⟨0, 9, ⟨1, 4, some "item"⟩, .override⟩, ⟨0, 13, ⟨1, 8, some "item"⟩, .override⟩,
        ⟨0, 17, ⟨1, 12, some "a"⟩, .override⟩, ⟨0, 18, ⟨1, 13, some "a"⟩, .override⟩] := by
    rw [passes_snd, hanalysis, ← hmap, ← hhost]
    decide +kernel
  have hfits : ∀ m ∈ Mapping.merge (passes ⟨Rules.standard, readSyntax⟩ code map host ⟨0, 0, 0⟩).1
      (passes ⟨Rules.standard, readSyntax⟩ code map host ⟨0, 0, 0⟩).2.1, m.Fits := by
    intro m hm
    have hinserted := List.mem_append.2 (Mapping.mem_of_mem_merge hm)
    rw [hwalk, hoverrides] at hinserted
    simp only [List.cons_append, List.nil_append, List.mem_cons, List.not_mem_nil, or_false]
      at hinserted
    rcases hinserted with rfl | rfl | rfl | rfl | rfl <;> exact ⟨by decide, by decide, by decide⟩
  have hcount : (Mapping.merge (passes ⟨Rules.standard, readSyntax⟩ code map host ⟨0, 0, 0⟩).1
      (passes ⟨Rules.standard, readSyntax⟩ code map host ⟨0, 0, 0⟩).2.1).length ≤ 2 ^ 63 := by
    refine (Mapping.length_merge_le _ _).trans ?_
    rw [hwalk, hoverrides]
    decide
  have halone : Anchor.Undisturbed (analyze Rules.standard readSyntax code).1.anchors
      ⟨"item", 0, 9, 13⟩ := by
    rw [hanchors]
    decide
  have hsegment : map.firstSegment 0 = some (.mapped 9 0 1 0 none) := by
    rw [← hmap]
    decide
  have htext : host.lineText (Placement.hostLine ⟨0, 0, 0⟩ 1) = some "for item of a" := by
    rw [← hhost]
    decide +kernel
  have hcolumn : Anchor.columnIn "item" "for item of a" = some 4 := by decide +kernel
  refine ⟨hwalk, ?_⟩
  intro column hlow hhigh
  have hlookup := lookup_anchor ⟨Rules.standard, readSyntax⟩ code map host ⟨0, 0, 0⟩ hmem
    halone hsegment htext hcolumn hfits hcount hlow hhigh
  exact hlookup

end Normalizer

end Inlay
