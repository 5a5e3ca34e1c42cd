/-
**Protected columns and made-up names.**

The compiler's segments are not trusted inside a protected range, and a name that the compiler made up
must not reach a user.  Both are decided by an analysis that is complete before the first mapping is made.
A mapping of the walk starts at a segment that counts or ends at an advance that closes a range, and
neither happens inside a protected range; its name is that of a segment that counts.  The anchors of an
analysis never have a made-up name.

Main definitions:

* `Inlay.Mapping.Inside` — whether a mapping lies inside a range of columns;
* `Inlay.Walk.Guarded` — what the analysis asks of a mapping.

Main results:

* `Inlay.Walk.guarded_of_mem_coalesce` — the mappings of the walk respect the analysis;
* `Inlay.Anchor.of_mem_mappings` — the mappings of an anchor carry its name, at one of its two ends;
* `Inlay.Normalizer.normalize_guarded` — **no mapping of the walk lies inside a protected range, and no
  name that was made up for the code is in its position map**.
-/
import Inlay.Proofs.Bounds
import Inlay.Proofs.Findings
import Inlay.Proofs.RoundTrip
import Inlay.Syntax.Program

set_option autoImplicit false

namespace Inlay

/-- Whether a mapping lies inside a range of columns, its ends excluded. -/
def Mapping.Inside (m : Mapping) (range : ProtectedRange) : Prop :=
  m.line = range.line ∧ range.start < m.column ∧ m.column < range.stop

/-! ### The walk over the segments -/

namespace Walk

variable {walk : Walk} {line column : Nat} {segment : Segment}

theorem Counts.unprotected (h : walk.Counts line column segment) :
    walk.analysis.protection.containsStrictly line column = false := by
  cases segment with
  | mapped => exact h.1
  | advance => exact h.elim
  | malformed => exact h.elim

theorem Counts.isSynthetic_eq_false {target : Target} {name : String}
    (h : walk.Counts line column segment) (htarget : walk.target? segment = some target)
    (hname : target.name = some name) : walk.analysis.isSynthetic name = false := by
  cases segment with
  | mapped =>
      obtain ⟨_, _, rfl⟩ := Option.map_eq_some_iff.1 htarget
      exact h.2.1 name hname
  | advance => exact h.elim
  | malformed => exact h.elim

/-- What the analysis asks of a mapping: it is not inside a protected range, and its name was not made
up. -/
structure Guarded (walk : Walk) (m : Mapping) : Prop where
  unprotected : walk.analysis.protection.containsStrictly m.line m.column = false
  name : ∀ name, m.target.name = some name → walk.analysis.isSynthetic name = false

/-- The walk over a line respects the analysis. -/
theorem sustains_guarded (walk : Walk) (number : Nat) :
    walk.Sustains number fun m => m.line = number ∧ walk.Guarded m where
  candidate _ _ _ hcounts htarget :=
    ⟨rfl, hcounts.unprotected, fun _ hname => hcounts.isSynthetic_eq_false htarget hname⟩
  retarget _ _ _ h hcounts htarget :=
    ⟨h.1, h.2.unprotected, fun _ hname => hcounts.isSynthetic_eq_false htarget hname⟩
  rangeEnd _ _ _ _ h hcloses := by
    -- the end of a range keeps the name, and its column is that of the advance
    refine ⟨h.1, ?_, h.2.name⟩
    rw [rangeEnd, h.1]
    exact hcloses.2.2

/-- **The mappings of the walk respect the analysis.** -/
theorem guarded_of_mem_coalesce {m : Mapping} (h : m ∈ walk.coalesce.1) : walk.Guarded m := by
  obtain ⟨number, segments, _, hm⟩ := exists_of_mem_linesFrom h
  exact ((walk.sustains_guarded number).line segments 0 none (by simp) m hm).2

end Walk

/-! ### The anchors of an analysis -/

/-- The mappings of an anchor carry its name, at one of its two ends. -/
theorem Anchor.of_mem_mappings {anchor : Anchor} {place : HostPosition} {m : Mapping}
    (h : m ∈ anchor.mappings place) :
    m.line = anchor.line ∧ (m.column = anchor.start ∨ m.column = anchor.stop) ∧
      m.target.name = some anchor.name ∧ m.origin = .override := by
  rcases List.mem_cons.1 h with rfl | h
  · exact ⟨rfl, Or.inl rfl, rfl, rfl⟩
  · obtain rfl := List.mem_singleton.1 h
    exact ⟨rfl, Or.inr rfl, rfl, rfl⟩

section Overrides

variable {analysis : Analysis} {map : NativeMap} {host : Host} {placement : Placement} {m : Mapping}

theorem exists_of_mem_overrides (h : m ∈ (overrides analysis map host placement).1) :
    ∃ anchor ∈ analysis.anchors, ∃ place, anchor.resolve map host placement = .ok place ∧
      m ∈ anchor.mappings place :=
  exists_of_mem_overridesOf h

theorem origin_of_mem_overrides (h : m ∈ (overrides analysis map host placement).1) :
    m.origin = .override := by
  obtain ⟨anchor, _, place, _, hm⟩ := exists_of_mem_overrides h
  exact (Anchor.of_mem_mappings hm).2.2.2

end Overrides

/-! ### Position maps -/

namespace Normalizer

variable {normalizer : Normalizer} {code : String} {map : NativeMap} {host : Host}
  {placement : Placement} {m : Mapping}

/-- A merged mapping of the first pass respects the analysis. -/
theorem guarded_of_mem_merge
    (hm : m ∈ Mapping.merge (normalizer.passes code map host placement).1
      (normalizer.passes code map host placement).2.1)
    (horigin : m.origin = .coalesced) : (normalizer.walk code map host placement).Guarded m := by
  rcases Mapping.mem_of_mem_merge hm with hcoalesced | hoverride
  · exact Walk.guarded_of_mem_coalesce hcoalesced
  · have hother := origin_of_mem_overrides hoverride
    rw [horigin] at hother
    cases hother

/-- No merged mapping has a name that the analysis of a tree found to be made up. -/
theorem isSynthetic_of_mem_merge {found : Findings} {name : String}
    (hfound : (analyze normalizer.rules normalizer.reader code).1 = found.analysis)
    (hm : m ∈ Mapping.merge (normalizer.passes code map host placement).1
      (normalizer.passes code map host placement).2.1)
    (hname : m.target.name = some name) : found.analysis.isSynthetic name = false := by
  rcases Mapping.mem_of_mem_merge hm with hcoalesced | hoverride
  · rw [← hfound]
    exact (Walk.guarded_of_mem_coalesce hcoalesced).name name hname
  · rw [passes_snd, hfound] at hoverride
    obtain ⟨anchor, hanchor, place, _, hmapping⟩ := exists_of_mem_overrides hoverride
    rw [Findings.mem_anchors_analysis] at hanchor
    rw [(Anchor.of_mem_mappings hmapping).2.2.1] at hname
    obtain rfl := Option.some.inj hname
    exact hanchor.2

/-- **Protected columns and made-up names stay out of a position map.**  When the tree of a code was
analysed, no merged mapping of the walk lies inside a protected range.  If the name of an identifier
anywhere in the tree is one that the compiler makes up, then no merged mapping of either pass carries it,
it is not in the table of names, and no mapping of the walk lies inside the identifier. -/
theorem normalize_guarded (normalizer : Normalizer) (code : String) (map : NativeMap) (host : Host)
    (placement : Placement) {root : Node} (hroot : normalizer.reader code = .ok root)
    (hcompleted : (analyze normalizer.rules normalizer.reader code).1.status = .completed) :
    let analysis := (analyze normalizer.rules normalizer.reader code).1
    let passes := normalizer.passes code map host placement
    let merged := Mapping.merge passes.1 passes.2.1
    let encoded := (normalizer.normalize code map host placement).1
    encoded = PositionMap.encode host passes.1 passes.2.1 ∧
    (∀ m ∈ merged, m.origin = .coalesced →
      ∀ range ∈ analysis.protection.ranges, ¬ m.Inside range) ∧
    ∀ node name, Node.Within node root → node.kind = .identifier name →
      normalizer.rules.isSynthetic name = true →
        (∀ m ∈ merged, m.target.name ≠ some name) ∧ name ∉ encoded.names ∧
        ∀ m ∈ merged, m.origin = .coalesced →
          ∀ columns, node.columns? = some columns → ¬ m.Inside columns := by
  intro analysis passes merged encoded
  -- the analysis is that of a walk over the tree
  obtain ⟨other, hother, hfound⟩ : ∃ other, normalizer.reader code = .ok other ∧
      analysis = (Node.findings normalizer.rules.isSynthetic {} other).analysis := by
    rcases analyze_cases normalizer.rules normalizer.reader code with ⟨status, hstatus, hempty⟩ | h
    · rw [hempty] at hcompleted
      exact absurd hcompleted hstatus
    · exact h
  obtain rfl : root = other := Except.ok.inj (hroot.symm.trans hother)
  have hprotection : analysis.protection =
      .ofRanges (Node.findings normalizer.rules.isSynthetic {} root).ranges := by
    rw [hfound]
    rfl
  have hunprotected : ∀ m ∈ merged, m.origin = .coalesced →
      analysis.protection.containsStrictly m.line m.column = false := fun m hm horigin =>
    (guarded_of_mem_merge hm horigin).unprotected
  rw [hprotection] at hunprotected
  refine ⟨rfl, ?_, ?_⟩
  · rintro m hm horigin range hrange ⟨hline, hlow, hhigh⟩
    rw [hprotection] at hrange
    have hinside := Protection.containsStrictly_of_mem_ranges hrange hlow hhigh
    rw [← hline, hunprotected m hm horigin] at hinside
    cases hinside
  · intro node name hwithin hkind hname
    have hnone : ∀ m ∈ merged, m.target.name ≠ some name := by
      intro m hm htarget
      have hquiet := isSynthetic_of_mem_merge hfound hm htarget
      rw [Findings.isSynthetic_analysis_iff.2
        ((Node.mem_synthetic_findings _).2 ⟨hname, node, hwithin, hkind⟩)] at hquiet
      cases hquiet
    refine ⟨hnone, ?_, ?_⟩
    · intro hmem
      obtain ⟨m, hm, htarget⟩ := Mapping.mem_names_iff.1 hmem
      exact hnone m hm htarget
    · rintro m hm horigin columns hcolumns ⟨hline, hlow, hhigh⟩
      have hinside := Protection.containsStrictly_of_mem
        (Node.columns?_mem_ranges _ hwithin hkind hname hcolumns) hlow hhigh
      rw [← hline, hunprotected m hm horigin] at hinside
      cases hinside

/-- The counter `i` of a loop is made up by the compiler, and two segments of its map bear that name. -/
theorem normalize_guarded_counter :
    ∃ (code : String) (map : NativeMap) (root : Node),
      code = "for (let i of a) f(i)" ∧
      map = .ofLines [[[0, 0, 0, 0], [9, 0, 0, 4, 0], [10, 0, 0, 4, 0]]] (some ["i"]) ∧
      readSyntax code = .ok root ∧
      (analyze Rules.standard readSyntax code).1.status = .completed ∧
      (∃ node, Node.Within node root ∧ node.kind = .identifier "i") ∧
      Rules.standard.isSynthetic "i" = true ∧
      "i" ∉ (normalize ⟨Rules.standard, readSyntax⟩ code map ⟨"host", "for a f"⟩ ⟨0, 0, 0⟩).1.names := by
  have htree : (readSyntax "for (let i of a) f(i)").toOption.any
      (fun root => root.preorder.any fun node => node.kind == .identifier "i") = true := by
    decide +kernel
  have hcompleted : (analyze Rules.standard readSyntax "for (let i of a) f(i)").1.status =
      .completed := by
    decide +kernel
  have hname : Rules.standard.isSynthetic "i" = true := by decide +kernel
  generalize "for (let i of a) f(i)" = code at htree hcompleted
  cases hroot : readSyntax code with
  | error failure =>
      rw [hroot] at htree
      cases htree
  | ok root =>
      rw [hroot] at htree
      obtain ⟨node, hnode, hkind⟩ := List.any_eq_true.1 htree
      have hwithin : Node.Within node root := Node.mem_preorder_iff.1 hnode
      have hguarded := fun map => normalize_guarded ⟨Rules.standard, readSyntax⟩ code map
        ⟨"host", "for a f"⟩ ⟨0, 0, 0⟩ hroot hcompleted
      exact ⟨code, _, root, rfl, rfl, hroot, hcompleted, ⟨node, hwithin, eq_of_beq hkind⟩,
        hname, ((hguarded _).2.2 node "i" hwithin (eq_of_beq hkind) hname).2.1⟩

end Normalizer

end Inlay
