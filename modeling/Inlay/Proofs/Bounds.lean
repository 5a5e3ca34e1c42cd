/-
**Mappings stay inside the host.**

A consumer of a position map looks its positions up in the host, so none may lie outside.  There are four
ways in which a mapping gets its position: by translating a snippet position, by moving on from a pending
one to the end of its range, and from the start and the end of a name that was found on a host line.  Each
of them ends in the host, and merging makes nothing up.

Main results:

* `Inlay.Walk.contains_of_mem_coalesce` — the walk over the segments stays in the host;
* `Inlay.Anchor.contains_of_resolve` — a name that was found lies in the host, from start to end;
* `Inlay.contains_of_mem_overrides` — so do the mappings of all anchors;
* `Inlay.Normalizer.normalize_sorted_in_host` — **the mappings of a position map are strictly increasing
  and lie in the host**.
-/
import Inlay.Normalization
import Inlay.Proofs.Walk
import Inlay.Proofs.Words

set_option autoImplicit false

namespace Inlay

/-! ### The walk over the segments -/

namespace Walk

theorem contains_of_target? {walk : Walk} {segment : Segment} {target : Target}
    (h : walk.target? segment = some target) : walk.host.Contains target.line target.column := by
  cases segment with
  | advance delta => cases h
  | malformed delta? fault => cases h
  | mapped delta source snippetLine snippetColumn nameIndex =>
      obtain ⟨place, hplace, rfl⟩ := Option.map_eq_some_iff.1 h
      exact Placement.contains_of_toHost hplace

/-- The end of a range lies on the line of its start, and not beyond the end of it. -/
theorem contains_rangeEnd {walk : Walk} {current : Mapping} {column delta : Nat}
    (h : walk.host.Contains current.target.line current.target.column) :
    walk.host.Contains (walk.rangeEnd current column delta).target.line
      (walk.rangeEnd current column delta).target.column := by
  obtain ⟨_, length, hlength, _⟩ := h
  refine Host.contains_of_le hlength ?_
  simp only [rangeEnd, hlength, Option.getD_some]
  exact Nat.min_le_right _ _

/-- **The walk over the segments stays in the host.** -/
theorem contains_of_mem_coalesce {walk : Walk} {m : Mapping} (h : m ∈ walk.coalesce.1) :
    walk.host.Contains m.target.line m.target.column := by
  refine forall_mem_coalesce (P := fun m => walk.host.Contains m.target.line m.target.column)
    (fun number => ⟨?_, ?_, ?_⟩) m h
  · intro column segment target _ htarget
    exact contains_of_target? htarget
  · intro current segment target _ _ htarget
    exact contains_of_target? htarget
  · intro current column delta _ hcurrent _
    exact contains_rangeEnd hcurrent

end Walk

/-! ### The names of anchors -/

/-- A name that was found on a host line lies in the host, from start to end. -/
theorem Anchor.contains_of_resolve {anchor : Anchor} {map : NativeMap} {host : Host}
    {placement : Placement} {place : HostPosition}
    (h : anchor.resolve map host placement = .ok place) :
    host.Contains place.line place.column ∧
      host.Contains place.line (place.column + Text.utf16Length anchor.name.toList) := by
  unfold resolve at h
  split at h
  · next snippetLine _ _ _ =>
      dsimp only at h
      split at h
      · cases h
      · next text htext =>
          split at h
          · cases h
          · next column hcolumn =>
              obtain rfl := Except.ok.inj h
              -- the name stands between two parts of the line, so its end is no later than the line's
              obtain ⟨front, back, hfirst, rfl⟩ := columnIn_eq_some_iff.1 hcolumn
              have hlength : host.lineLength (placement.hostLine snippetLine) =
                  some (Text.utf16Length text.toList) := by
                rw [Host.lineLength, htext, Option.map_some]
              rw [hfirst.parts, Text.utf16Length_append, Text.utf16Length_append] at hlength
              exact ⟨Host.contains_of_le hlength (Nat.le_add_right _ _),
                Host.contains_of_le hlength (Nat.add_le_add_left (Nat.le_add_right _ _) _)⟩
  · cases h

/-- Each mapping of a list of anchors belongs to one whose name was found. -/
theorem exists_of_mem_overridesOf {analysis : Analysis} {map : NativeMap} {host : Host}
    {placement : Placement} {anchors : List Anchor} {m : Mapping}
    (h : m ∈ (overridesOf analysis map host placement anchors).1) :
    ∃ anchor ∈ anchors, ∃ place, anchor.resolve map host placement = .ok place ∧
      m ∈ anchor.mappings place := by
  induction anchors with
  | nil => cases h
  | cons anchor rest ih =>
      have hrest : m ∈ (overridesOf analysis map host placement rest).1 →
          ∃ other ∈ anchor :: rest, ∃ place, other.resolve map host placement = .ok place ∧
            m ∈ other.mappings place := by
        intro hm
        obtain ⟨other, hother, found⟩ := ih hm
        exact ⟨other, List.mem_cons_of_mem _ hother, found⟩
      rw [overridesOf] at h
      dsimp only at h
      split at h
      · exact hrest h
      · cases hresolve : anchor.resolve map host placement with
        | error report =>
            rw [hresolve] at h
            exact hrest h
        | ok place =>
            rw [hresolve] at h
            rcases List.mem_append.1 h with hm | hm
            · exact ⟨anchor, List.mem_cons_self .., place, hresolve, hm⟩
            · exact hrest hm

/-- **The mappings of anchors stay in the host.** -/
theorem contains_of_mem_overrides {analysis : Analysis} {map : NativeMap} {host : Host}
    {placement : Placement} {m : Mapping} (h : m ∈ (overrides analysis map host placement).1) :
    host.Contains m.target.line m.target.column := by
  obtain ⟨anchor, _, place, hresolve, hm⟩ := exists_of_mem_overridesOf h
  obtain ⟨hstart, hstop⟩ := Anchor.contains_of_resolve hresolve
  rcases List.mem_cons.1 hm with rfl | hm
  · exact hstart
  · obtain rfl := List.mem_singleton.1 hm
    exact hstop

/-! ### Position maps -/

/-- The walk of the first pass. -/
def Normalizer.walk (normalizer : Normalizer) (code : String) (map : NativeMap) (host : Host)
    (placement : Placement) : Walk where
  map := map
  analysis := (analyze normalizer.rules normalizer.reader code).1
  host := host
  placement := placement
  adjustSeparators := normalizer.rules.adjustSeparators

theorem Normalizer.passes_fst (normalizer : Normalizer) (code : String) (map : NativeMap)
    (host : Host) (placement : Placement) :
    (normalizer.passes code map host placement).1 =
      (normalizer.walk code map host placement).coalesce.1 := rfl

theorem Normalizer.passes_snd (normalizer : Normalizer) (code : String) (map : NativeMap)
    (host : Host) (placement : Placement) :
    (normalizer.passes code map host placement).2.1 =
      (overrides (analyze normalizer.rules normalizer.reader code).1 map host placement).1 := rfl

/-- Both passes go by one analysis: the first is a walk over the host, the second maps its anchors. -/
theorem Normalizer.exists_walk (normalizer : Normalizer) (code : String) (map : NativeMap)
    (host : Host) (placement : Placement) :
    ∃ walk : Walk, walk.host = host ∧
      (normalizer.passes code map host placement).1 = walk.coalesce.1 ∧
      (normalizer.passes code map host placement).2.1 =
        (overrides walk.analysis map host placement).1 :=
  ⟨normalizer.walk code map host placement, rfl, passes_fst .., passes_snd ..⟩

/-- **A position map is the encoding of mappings that are strictly increasing in their generated places
and whose host positions are there**: on a line of the host, and not beyond the end of that line. -/
theorem Normalizer.normalize_sorted_in_host (normalizer : Normalizer) (code : String)
    (map : NativeMap) (host : Host) (placement : Placement) :
    let passes := normalizer.passes code map host placement
    let merged := Mapping.merge passes.1 passes.2.1
    (normalizer.normalize code map host placement).1.mappings =
        PositionMap.encodeMappings merged (Mapping.names merged) ∧
      merged.Pairwise Mapping.Precedes ∧
      ∀ m ∈ merged, m.target.line < host.lineCount ∧
        ∃ length, host.lineLength m.target.line = some length ∧ m.target.column ≤ length := by
  intro passes merged
  refine ⟨rfl, Mapping.pairwise_merge _ _, ?_⟩
  intro m hm
  obtain ⟨walk, rfl, hfirst, hsecond⟩ := normalizer.exists_walk code map host placement
  rcases Mapping.mem_of_mem_merge hm with hcoalesced | hoverride
  · exact Walk.contains_of_mem_coalesce (hfirst ▸ hcoalesced)
  · exact contains_of_mem_overrides (hsecond ▸ hoverride)

end Inlay
