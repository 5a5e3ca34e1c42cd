/-
**Which position maps can be read back.**

The walk over a line admits every generated column that is an unsigned word, but the text of a map is
written and read in signed words.  Host positions are no trouble, since no host text is that long.  So the
map of a snippet reads back as its merged mappings exactly if all of their generated columns are signed
words; a column beyond that comes out wrong or not at all.

Main results:

* `Inlay.PositionMap.column_le_of_mem_decode` — every column that is read is a signed word;
* `Inlay.Normalizer.normalize_decode_iff` — **a map reads back as its merged mappings exactly if their
  generated columns are signed words**;
* `Inlay.Normalizer.normalize_decode_huge_column` — a map that does not.
-/
import Inlay.Proofs.Bounds
import Inlay.Proofs.Fields
import Inlay.Proofs.Findings
import Inlay.Proofs.RoundTrip
import Inlay.Syntax.Program

set_option autoImplicit false

namespace Inlay

/-! ### Columns that are read -/

namespace PositionMap

/-- Every column that is read is a signed word. -/
theorem column_le_of_mem_decode {map : PositionMap} {found : List DecodedMapping}
    (h : map.decode = .ok found) : ∀ decoded ∈ found, decoded.column ≤ 2 ^ 63 - 1 := by
  obtain ⟨read, after, htraces⟩ := exists_traces_of_decodeMappings h
  exact htraces.column_le

end PositionMap

/-! ### Position maps -/

namespace Normalizer

/-- The host positions of merged mappings are signed words. -/
theorem fits_of_column_le {normalizer : Normalizer} {code : String} {map : NativeMap} {host : Host}
    {placement : Placement} {m : Mapping}
    (htext : Text.utf8Length host.text.toList ≤ 2 ^ 63 - 1)
    (hm : m ∈ Mapping.merge (normalizer.passes code map host placement).1
      (normalizer.passes code map host placement).2.1)
    (hcolumn : m.column ≤ 2 ^ 63 - 1) : m.Fits := by
  have hcontains : host.Contains m.target.line m.target.column := by
    rcases Mapping.mem_of_mem_merge hm with hcoalesced | hoverride
    · have hwalk : (normalizer.walk code map host placement).host = host := rfl
      rw [← hwalk]
      exact Walk.contains_of_mem_coalesce hcoalesced
    · exact contains_of_mem_overrides hoverride
  obtain ⟨hline, hcol⟩ := hcontains.le
  exact ⟨hcolumn, hline.trans htext, hcol.trans htext⟩

/-- **A position map reads back as its merged mappings exactly if their generated columns are signed
words.**  Host texts are no longer than a text in memory can be, and there are no more mappings than a list
in memory can hold. -/
theorem normalize_decode_iff (normalizer : Normalizer) (code : String) (map : NativeMap) (host : Host)
    (placement : Placement) (htext : Text.utf8Length host.text.toList ≤ 2 ^ 63 - 1)
    (hcount : (Mapping.merge (normalizer.passes code map host placement).1
      (normalizer.passes code map host placement).2.1).length ≤ 2 ^ 63) :
    let passes := normalizer.passes code map host placement
    let merged := Mapping.merge passes.1 passes.2.1
    (∃ decoded, (normalizer.normalize code map host placement).1.decode = .ok decoded ∧
      decoded.map (fun d => (d.line, d.column, d.hostLine, d.hostColumn)) =
        merged.map (fun m => (m.line, m.column, m.target.line, m.target.column))) ↔
      ∀ m ∈ merged, m.column ≤ 2 ^ 63 - 1 := by
  intro passes merged
  constructor
  · rintro ⟨decoded, hdecode, hplaces⟩ m hm
    -- the mapping was read back, and what is read has a small column
    have hplace : (m.line, m.column, m.target.line, m.target.column) ∈
        decoded.map fun d => (d.line, d.column, d.hostLine, d.hostColumn) := by
      rw [hplaces]
      exact List.mem_map.2 ⟨m, hm, rfl⟩
    obtain ⟨d, hd, heq⟩ := List.mem_map.1 hplace
    have hcolumn : d.column = m.column := (Prod.mk.inj (Prod.mk.inj heq).2).1
    rw [← hcolumn]
    exact PositionMap.column_le_of_mem_decode hdecode d hd
  · intro hcolumns
    refine ⟨_, PositionMap.decode_encode_of_merge_fits host
      (fun m hm => fits_of_column_le htext hm (hcolumns m hm)) hcount, ?_⟩
    rw [List.map_map]
    rfl

/-- The greatest column that is a signed word is read back. -/
theorem normalize_decode_greatest_column :
    ∃ (normalizer : Normalizer) (map : NativeMap) (host : Host) (placement : Placement),
      normalizer = ⟨Rules.standard, readSyntax⟩ ∧ map = .ofLines [[[1], [2 ^ 63 - 2, 0, 0, 0]]] none ∧
      host = ⟨"App.svelte", "ab\ncd\n"⟩ ∧ placement = ⟨1, 0, 0⟩ ∧
      Text.utf8Length host.text.toList ≤ 2 ^ 63 - 1 ∧
      (Mapping.merge (normalizer.passes "const x = 1\n" map host placement).1
        (normalizer.passes "const x = 1\n" map host placement).2.1).length ≤ 2 ^ 63 ∧
      ∃ decoded, (normalizer.normalize "const x = 1\n" map host placement).1.decode = .ok decoded ∧
        decoded.map (fun d => (d.line, d.column, d.hostLine, d.hostColumn)) =
          [(0, 2 ^ 63 - 1, 1, 0)] := by
  refine ⟨_, _, _, _, rfl, rfl, rfl, rfl, by decide +kernel, by decide +kernel, ?_⟩
  obtain ⟨decoded, hdecode, hplaces⟩ := (normalize_decode_iff ⟨Rules.standard, readSyntax⟩
    "const x = 1\n" (.ofLines [[[1], [2 ^ 63 - 2, 0, 0, 0]]] none) ⟨"App.svelte", "ab\ncd\n"⟩
    ⟨1, 0, 0⟩ (by decide +kernel) (by decide +kernel)).2 (by decide +kernel)
  exact ⟨decoded, hdecode, hplaces.trans (by decide +kernel)⟩

/-- Two deltas that are signed words reach a column that is none, and the map cannot be read. -/
theorem normalize_decode_huge_column :
    ∃ (normalizer : Normalizer) (map : NativeMap) (host : Host) (placement : Placement),
      normalizer = ⟨Rules.standard, readSyntax⟩ ∧
      map = .ofLines [[[2 ^ 63 - 1], [2 ^ 63 - 1, 0, 0, 0]]] none ∧
      host = ⟨"App.svelte", "ab\ncd\n"⟩ ∧ placement = ⟨1, 0, 0⟩ ∧
      Mapping.merge (normalizer.passes "const x = 1\n" map host placement).1
        (normalizer.passes "const x = 1\n" map host placement).2.1 =
          [⟨0, 2 ^ 64 - 2, ⟨1, 0, none⟩, .coalesced⟩] ∧
      (normalizer.normalize "const x = 1\n" map host placement).1.decode =
        .error { line := 0, segment := 0, fault := .negativeColumn } :=
  ⟨_, _, _, _, rfl, rfl, rfl, rfl, by decide +kernel, by decide +kernel⟩

end Normalizer

end Inlay
