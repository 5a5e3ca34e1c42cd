/-
**Maps without an analysis.**

The analysis of a code comes to nothing when it is switched off, when the code cannot hold a loop, and when
there is no tree.  Nothing is protected then, no name is made up, and there are no anchors.  So the map of a
snippet depends on the compiler's segments alone, and no segment is held back: the map is empty only if no
mapped segment within reach points into the host.

Main definitions:

* `Inlay.Normalizer.Degraded` — whether the analysis of a code comes to nothing.

Main results:

* `Inlay.Walk.coalesce_withStatus` — a walk does not ask why its analysis is empty;
* `Inlay.PositionMap.isEmpty_encode_iff` — a text without segments is that of no mapping at all;
* `Inlay.Walk.merge_coalesce_eq_nil_iff` — the merged map is empty exactly if no segment is eligible;
* `Inlay.Normalizer.normalize_degraded` — **without an analysis every mapped segment counts that is within
  reach and points into the host**.
-/
import Inlay.Proofs.Bounds
import Inlay.Proofs.Coalescing
import Inlay.Proofs.Findings
import Inlay.Proofs.Vlq
import Inlay.Syntax.Program

set_option autoImplicit false

namespace Inlay

/-! ### An empty analysis -/

/-- Whether the analysis of a code comes to nothing: it is switched off, the code cannot hold a loop, or
there is no tree. -/
def Normalizer.Degraded (normalizer : Normalizer) (code : String) : Prop :=
  normalizer.rules.protectLoops = false ∨ normalizer.rules.mayLoop code = false ∨
    ∃ failure, normalizer.reader code = .error failure

theorem Normalizer.Degraded.exists_analyze {normalizer : Normalizer} {code : String}
    (h : normalizer.Degraded code) :
    ∃ status, (analyze normalizer.rules normalizer.reader code).1 = { status } := by
  unfold analyze
  split
  · exact ⟨_, rfl⟩
  · next hprotect =>
      split
      · exact ⟨_, rfl⟩
      · next hloop =>
          rcases h with h | h | ⟨failure, h⟩
          · simp [h] at hprotect
          · simp [h] at hloop
          · rw [h]
            exact ⟨_, rfl⟩

namespace Walk

variable {walk : Walk} {status : AnalysisStatus}

/-- The walk with another reason for its analysis. -/
def withStatus (walk : Walk) (status : AnalysisStatus) : Walk :=
  { walk with analysis := { walk.analysis with status } }

theorem line_withStatus (walk : Walk) (status : AnalysisStatus) (number column : Nat)
    (pending : Option Mapping) (segments : List Segment) :
    (walk.withStatus status).line number column pending segments =
      walk.line number column pending segments := by
  -- nothing that a walk looks up reads the status, so both sides unfold to the same branches
  induction segments generalizing column pending with
  | nil => rfl
  | cons segment rest ih =>
      rw [line, line]
      simp only [ih]
      rfl

theorem linesFrom_withStatus (walk : Walk) (status : AnalysisStatus) (first : Nat)
    (lines : List (List Segment)) :
    (walk.withStatus status).linesFrom first lines = walk.linesFrom first lines := by
  induction lines generalizing first with
  | nil => rfl
  | cons segments rest ih =>
      rw [linesFrom, linesFrom, ih, line_withStatus]
      rfl

/-- A walk does not ask why its analysis is empty. -/
theorem coalesce_withStatus (walk : Walk) (status : AnalysisStatus) :
    (walk.withStatus status).coalesce = walk.coalesce :=
  walk.linesFrom_withStatus status 0 walk.map.lines

/-- With an empty analysis every segment of a line is looked at, and a mapped one counts if it points into
the host. -/
theorem eligible_iff_of_empty (hempty : walk.analysis = { status }) {line index column : Nat}
    {segment : Segment} {segments : List Segment} :
    walk.Eligible line (walk.kept line segments) index segment column ↔
      Reaches segments index segment column ∧ ∃ delta source snippetLine snippetColumn name,
        segment = .mapped delta source snippetLine snippetColumn name ∧
          walk.placement.hostLine snippetLine < walk.host.lineCount := by
  have hkept : walk.kept line segments = segments := by
    rw [kept, hempty]
    simp [Analysis.anchorLines, mem_sortedDistinct]
  rw [hkept]
  constructor
  · rintro ⟨hreaches, hcounts⟩
    refine ⟨hreaches, ?_⟩
    cases segment with
    | advance => exact hcounts.elim
    | malformed => exact hcounts.elim
    | mapped delta source snippetLine snippetColumn name =>
        exact ⟨delta, source, snippetLine, snippetColumn, name, rfl, hcounts.2.2⟩
  · rintro ⟨hreaches, delta, source, snippetLine, snippetColumn, name, rfl, hline⟩
    refine ⟨hreaches, ?_, ?_, hline⟩
    · rw [hempty]
      rfl
    · intro name _
      rw [hempty]
      rfl

end Walk

/-! ### Empty maps -/

namespace PositionMap

theorem exists_ne_semicolon_of_mem_segment (cursor : Cursor) (m : Mapping) (index : Option Nat) :
    ∃ c ∈ cursor.segment m index, c ≠ ';' := by
  -- the index of the source is always written
  obtain ⟨c, hc⟩ := List.exists_mem_of_ne_nil _ (Vlq.encode_ne_nil 0)
  refine ⟨c, ?_, ?_⟩
  · simp [Cursor.segment, hc]
  · rintro rfl
    exact absurd (Vlq.digitValue?_isSome_of_mem_encode hc) (by decide)

/-- A text without segments is that of no mapping at all. -/
theorem isEmpty_encode_iff (host : Host) (coalesced overrides : List Mapping) :
    (encode host coalesced overrides).isEmpty = true ↔ Mapping.merge coalesced overrides = [] := by
  rw [isEmpty, encode, encodeMappings, String.toList_ofList]
  cases Mapping.merge coalesced overrides with
  | nil => exact iff_of_true rfl rfl
  | cons m rest =>
      refine iff_of_false ?_ (List.cons_ne_nil _ _)
      obtain ⟨c, hc, hne⟩ := exists_ne_semicolon_of_mem_segment {} m
        (nameIndex (Mapping.names (m :: rest)) m)
      intro hall
      have hmem : c ∈ encodeFrom (Mapping.names (m :: rest)) {} (m :: rest) := by
        simp [encodeFrom, hc]
      exact hne (eq_of_beq (List.all_eq_true.1 hall c hmem))

end PositionMap

/-- **The merged map is empty exactly if no segment is eligible.**  A range ends only behind a segment that
was eligible, and of the mappings at a place merging keeps one. -/
theorem Walk.merge_coalesce_eq_nil_iff (walk : Walk) :
    Mapping.merge walk.coalesce.1 [] = [] ↔ ∀ line index segment column,
      ¬ walk.Eligible line (walk.kept line (walk.map.segments line)) index segment column := by
  constructor
  · intro hnil line index segment column heligible
    obtain ⟨held, hheld, hdue⟩ := walk.exists_due_merge line column
    obtain ⟨target, htarget⟩ := hdue.exists_iff.2 (Or.inl ⟨index, segment, heligible⟩)
    obtain ⟨m, hm, _⟩ := Option.map_eq_some_iff.1 htarget
    have hmem := ((hheld m).2 hm).1
    rw [hnil] at hmem
    cases hmem
  · intro hnone
    rw [List.eq_nil_iff_forall_not_mem]
    intro m hm
    obtain ⟨held, hheld, hdue⟩ := walk.exists_due_merge m.line m.column
    have hsome := (hheld m).1 ⟨hm, rfl, rfl⟩
    rcases hdue.exists_iff.1 ⟨m.target, by rw [hsome, Option.map_some]⟩ with
      ⟨index, segment, heligible⟩ | ⟨start, delta, index, segment, _, _, hpending⟩
    · exact hnone _ index segment _ heligible
    · obtain ⟨i, other, _, heligible, _⟩ := hpending
      exact hnone _ i other _ heligible

/-! ### Position maps -/

namespace Normalizer

variable {normalizer : Normalizer} {code : String}

/-- The map of a degraded normalisation, whatever the reason for it is. -/
theorem Degraded.normalize_eq (h : normalizer.Degraded code) (map : NativeMap) (host : Host)
    (placement : Placement) :
    (normalizer.normalize code map host placement).1 =
      PositionMap.encode host (Walk.mk map { status := .disabled } host placement
        normalizer.rules.adjustSeparators).coalesce.1 [] := by
  have hencode : (normalizer.normalize code map host placement).1 =
      PositionMap.encode host (normalizer.passes code map host placement).1
        (normalizer.passes code map host placement).2.1 := rfl
  obtain ⟨status, hstatus⟩ := h.exists_analyze
  rw [hencode, passes_fst, passes_snd, walk, hstatus, ← Walk.coalesce_withStatus _ .disabled]
  rfl

/-- **Without an analysis nothing is lost.**  Whether the analysis is switched off, the code cannot hold a
loop, or there is no tree, the map of a snippet is the same.  It is empty exactly if there is no mapped
segment that is reached before any overflow on its line and whose snippet line falls inside the host. -/
theorem normalize_degraded (normalizer : Normalizer) (code : String) (map : NativeMap) (host : Host)
    (placement : Placement) (h : normalizer.Degraded code) :
    (∀ (other : Normalizer) (otherCode : String), other.Degraded otherCode →
      other.rules.adjustSeparators = normalizer.rules.adjustSeparators →
        (other.normalize otherCode map host placement).1 =
          (normalizer.normalize code map host placement).1) ∧
    ((normalizer.normalize code map host placement).1.isEmpty = true ↔
      ¬ ∃ line index column delta source snippetLine snippetColumn name,
        Walk.Reaches (map.segments line) index
            (.mapped delta source snippetLine snippetColumn name) column ∧
          placement.hostLine snippetLine < host.lineCount) := by
  refine ⟨?_, ?_⟩
  · intro other otherCode hother hadjust
    rw [hother.normalize_eq, h.normalize_eq, hadjust]
  · rw [h.normalize_eq, PositionMap.isEmpty_encode_iff, Walk.merge_coalesce_eq_nil_iff]
    constructor
    · rintro hnone ⟨line, index, column, delta, source, snippetLine, snippetColumn, name, hreaches,
        hline⟩
      exact hnone line index _ column
        ((Walk.eligible_iff_of_empty rfl).2 ⟨hreaches, _, _, _, _, _, rfl, hline⟩)
    · intro hnone line index segment column heligible
      obtain ⟨hreaches, delta, source, snippetLine, snippetColumn, name, rfl, hline⟩ :=
        (Walk.eligible_iff_of_empty rfl).1 heligible
      exact hnone ⟨line, index, column, delta, source, snippetLine, snippetColumn, name, hreaches,
        hline⟩

/-- A loop that cannot be read, and a segment behind one that points outside the host. -/
theorem normalize_degraded_unreadable :
    ∃ (unreadable off : Normalizer) (map : NativeMap) (host : Host) (placement : Placement),
      unreadable = ⟨Rules.standard, fun _ => .error (.parse "no tree")⟩ ∧
      off = ⟨{ Rules.standard with protectLoops := false }, readSyntax⟩ ∧
      map = .ofLines [[[0, 0, 9, 0], [3, 0, 1, 0]]] none ∧ host = ⟨"App.svelte", "ab\ncd\n"⟩ ∧
      placement = ⟨1, 0, 0⟩ ∧
      unreadable.Degraded "for (const a of b) c" ∧ off.Degraded "for (const a of b) c" ∧
      (off.normalize "for (const a of b) c" map host placement).1 =
        (unreadable.normalize "for (const a of b) c" map host placement).1 ∧
      (unreadable.normalize "for (const a of b) c" map host placement).1.isEmpty ≠ true := by
  have hunreadable : Degraded ⟨Rules.standard, fun _ => .error (.parse "no tree")⟩
      "for (const a of b) c" := Or.inr (Or.inr ⟨_, rfl⟩)
  have hoff : Degraded ⟨{ Rules.standard with protectLoops := false }, readSyntax⟩
      "for (const a of b) c" := Or.inl rfl
  obtain ⟨hsame, hempty⟩ := normalize_degraded _ _ (.ofLines [[[0, 0, 9, 0], [3, 0, 1, 0]]] none)
    ⟨"App.svelte", "ab\ncd\n"⟩ ⟨1, 0, 0⟩ hunreadable
  refine ⟨_, _, _, _, _, rfl, rfl, rfl, rfl, rfl, hunreadable, hoff, hsame _ _ hoff rfl, ?_⟩
  rw [Ne, hempty, not_not]
  exact ⟨0, 1, 3, 3, 0, 1, 0, none, ⟨rfl, rfl, by decide⟩, by decide +kernel⟩

end Normalizer

end Inlay
