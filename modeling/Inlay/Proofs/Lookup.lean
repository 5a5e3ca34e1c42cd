/-
**Looking up a generated place.**

A consumer of a position map asks which host place a generated place came from.  The answer takes the
long way round: the text of the map is decoded, the mappings of the line up to the column are picked out,
the rightmost of them wins, and its source and name go through tables.  All of this amounts to a plain
search in the merged mappings, for the one that covers the place.

Main definitions:

* `Inlay.Mapping.Covers` — which of some mappings covers a generated place;
* `Inlay.Mapping.sourcePosition` — the answer that a mapping gives.

Main results:

* `Inlay.PositionMap.rightmost_spec` — the rightmost mapping is one with the greatest column;
* `Inlay.PositionMap.lookup_of_covers`, `Inlay.PositionMap.lookup_of_forall_lt` — what is looked up where
  a merged mapping covers the place, and where none does;
* `Inlay.PositionMap.lookup_encode` — **looking up a place finds the merged mapping that covers it**.
-/
import Inlay.Proofs.RoundTrip

set_option autoImplicit false

namespace Inlay

namespace Mapping

/-- Of some mappings, one covers a generated place: it stands on its line and not behind it, and no other
one that does so stands further right. -/
structure Covers (mappings : List Mapping) (line column : Nat) (m : Mapping) : Prop where
  mem : m ∈ mappings
  line_eq : m.line = line
  column_le : m.column ≤ column
  greatest : ∀ other ∈ mappings, other.line = line → other.column ≤ column → other.column ≤ m.column

/-- Merged mappings of one place are the same mapping. -/
theorem eq_of_mem_merge {coalesced overrides : List Mapping} {a b : Mapping}
    (ha : a ∈ merge coalesced overrides) (hb : b ∈ merge coalesced overrides)
    (hline : a.line = b.line) (hcolumn : a.column = b.column) : a = b := by
  rw [mem_merge_iff] at ha hb
  rw [hline, hcolumn, hb] at ha
  exact (Option.some.inj ha).symm

/-- Only one merged mapping covers a place. -/
theorem Covers.unique {coalesced overrides : List Mapping} {line column : Nat} {a b : Mapping}
    (ha : Covers (merge coalesced overrides) line column a)
    (hb : Covers (merge coalesced overrides) line column b) : a = b := by
  have hle := hb.greatest a ha.mem ha.line_eq ha.column_le
  have hge := ha.greatest b hb.mem hb.line_eq hb.column_le
  exact eq_of_mem_merge ha.mem hb.mem (ha.line_eq.trans hb.line_eq.symm) (Nat.le_antisymm hle hge)

/-- The host side of a mapping as an answer: lines are counted from one there. -/
def sourcePosition (host : Host) (m : Mapping) : PositionMap.SourcePosition where
  source := host.path
  line := m.target.line + 1
  column := m.target.column
  name := m.target.name

end Mapping

namespace PositionMap

/-! ### The rightmost mapping -/

theorem rightmost_eq_none_iff {mappings : List DecodedMapping} :
    rightmost mappings = none ↔ mappings = [] := by
  cases mappings with
  | nil => simp [rightmost]
  | cons first rest =>
      rw [rightmost]
      cases rightmost rest with
      | none => simp
      | some best => by_cases hle : first.column ≤ best.column <;> simp [hle]

/-- The rightmost mapping is one with the greatest column. -/
theorem rightmost_spec {mappings : List DecodedMapping} {best : DecodedMapping}
    (h : rightmost mappings = some best) :
    best ∈ mappings ∧ ∀ other ∈ mappings, other.column ≤ best.column := by
  induction mappings generalizing best with
  | nil => cases h
  | cons first rest ih =>
      rw [rightmost] at h
      cases hrest : rightmost rest with
      | none =>
          rw [hrest] at h
          obtain rfl := Option.some.inj h
          obtain rfl := rightmost_eq_none_iff.1 hrest
          simp
      | some last =>
          obtain ⟨hmem, hmax⟩ := ih hrest
          rw [hrest] at h
          dsimp only at h
          split at h
          · next hle =>
              obtain rfl := Option.some.inj h
              refine ⟨List.mem_cons_of_mem _ hmem, ?_⟩
              rw [List.forall_mem_cons]
              exact ⟨hle, hmax⟩
          · next hlt =>
              obtain rfl := Option.some.inj h
              refine ⟨List.mem_cons_self .., ?_⟩
              rw [List.forall_mem_cons]
              refine ⟨Nat.le_refl _, ?_⟩
              intro other hother
              have hother := hmax other hother
              omega

/-! ### The covering mapping -/

section Covering

variable {names : List String} {mappings : List Mapping} {line column : Nat}

/-- Nothing covers a place exactly if all mappings of its line stand behind it. -/
theorem covering_eq_none_iff :
    covering (mappings.map fun m => decodedOf m (nameIndex names m)) line column = none ↔
      ∀ m ∈ mappings, m.line = line → column < m.column := by
  rw [covering, rightmost_eq_none_iff, List.filter_eq_nil_iff]
  simp [decodedOf]

/-- What covers a place among decoded mappings is read for a mapping that covers it. -/
theorem exists_covers_of_covering {decoded : DecodedMapping}
    (h : covering (mappings.map fun m => decodedOf m (nameIndex names m)) line column =
      some decoded) :
    ∃ m, Mapping.Covers mappings line column m ∧ decoded = decodedOf m (nameIndex names m) := by
  obtain ⟨hmem, hmax⟩ := rightmost_spec h
  obtain ⟨hread, hhere⟩ := List.mem_filter.1 hmem
  simp only [Bool.and_eq_true, beq_iff_eq, decide_eq_true_eq] at hhere
  obtain ⟨m, hm, rfl⟩ := List.mem_map.1 hread
  refine ⟨m, ⟨hm, hhere.1.1, hhere.1.2, ?_⟩, rfl⟩
  intro other hother hline hcolumn
  refine hmax (decodedOf other (nameIndex names other)) (List.mem_filter.2 ⟨?_, ?_⟩)
  · exact List.mem_map.2 ⟨other, hother, rfl⟩
  · simp [decodedOf, hline, hcolumn]

end Covering

/-! ### Whole lookups -/

section Lookup

variable {coalesced overrides : List Mapping} {line column : Nat}

/-- What is read for a merged mapping is resolved to what the mapping says. -/
theorem resolve_encode (host : Host) {m : Mapping} (hm : m ∈ Mapping.merge coalesced overrides) :
    (encode host coalesced overrides).resolve
        (decodedOf m (nameIndex (encode host coalesced overrides).names m)) =
      some (m.sourcePosition host) := by
  have hread : ReadsAs (encode host coalesced overrides).names m
      (decodedOf m (nameIndex (encode host coalesced overrides).names m)) :=
    readsAs_decodedOf fun name hname => Mapping.mem_names_iff.2 ⟨m, hm, hname⟩
  have hsource : (encode host coalesced overrides).sources = [host.path] := rfl
  have hname : ((decodedOf m (nameIndex (encode host coalesced overrides).names m)).name.bind
      fun index => (encode host coalesced overrides).names[index]?) = m.target.name := by
    have hfound := hread.name
    cases htarget : m.target.name with
    | none =>
        rw [htarget] at hfound
        rw [hfound, Option.bind_none]
    | some name =>
        rw [htarget] at hfound
        obtain ⟨index, hindex, hget⟩ := hfound
        rw [hindex, Option.bind_some, hget]
  rw [resolve, hread.source, hsource, hname]
  rfl

/-- A lookup searches the merged mappings, read with the indices of their names. -/
theorem lookup_succ (host : Host) (hfits : ∀ m ∈ Mapping.merge coalesced overrides, m.Fits)
    (hcount : (Mapping.merge coalesced overrides).length ≤ 2 ^ 63) :
    (encode host coalesced overrides).lookup (line + 1) column =
      .ok ((covering ((Mapping.merge coalesced overrides).map fun m =>
        decodedOf m (nameIndex (encode host coalesced overrides).names m)) line column).bind
          (encode host coalesced overrides).resolve) := by
  rw [lookup, decode_encode_of_merge_fits host hfits hcount]
  rfl

/-- Where all merged mappings of the line stand behind the place, nothing is found. -/
theorem lookup_of_forall_lt (host : Host)
    (hfits : ∀ m ∈ Mapping.merge coalesced overrides, m.Fits)
    (hcount : (Mapping.merge coalesced overrides).length ≤ 2 ^ 63)
    (h : ∀ m ∈ Mapping.merge coalesced overrides, m.line = line → column < m.column) :
    (encode host coalesced overrides).lookup (line + 1) column = .ok none := by
  rw [lookup_succ host hfits hcount, covering_eq_none_iff.2 h, Option.bind_none]

/-- Where a merged mapping stands on the line and not behind the place, one of them covers it and is
found. -/
theorem exists_lookup_covers (host : Host)
    (hfits : ∀ m ∈ Mapping.merge coalesced overrides, m.Fits)
    (hcount : (Mapping.merge coalesced overrides).length ≤ 2 ^ 63)
    (h : ∃ m ∈ Mapping.merge coalesced overrides, m.line = line ∧ m.column ≤ column) :
    ∃ m, Mapping.Covers (Mapping.merge coalesced overrides) line column m ∧
      (encode host coalesced overrides).lookup (line + 1) column =
        .ok (some (m.sourcePosition host)) := by
  rw [lookup_succ host hfits hcount]
  cases hcovering : covering ((Mapping.merge coalesced overrides).map fun m =>
      decodedOf m (nameIndex (encode host coalesced overrides).names m)) line column with
  | none =>
      obtain ⟨m, hm, hline, hcolumn⟩ := h
      have hlt := covering_eq_none_iff.1 hcovering m hm hline
      omega
  | some decoded =>
      obtain ⟨m, hcovers, rfl⟩ := exists_covers_of_covering hcovering
      exact ⟨m, hcovers, by rw [Option.bind_some, resolve_encode host hcovers.mem]⟩

/-- Where a merged mapping covers the place, it is found. -/
theorem lookup_of_covers (host : Host)
    (hfits : ∀ m ∈ Mapping.merge coalesced overrides, m.Fits)
    (hcount : (Mapping.merge coalesced overrides).length ≤ 2 ^ 63) {m : Mapping}
    (h : Mapping.Covers (Mapping.merge coalesced overrides) line column m) :
    (encode host coalesced overrides).lookup (line + 1) column =
      .ok (some (m.sourcePosition host)) := by
  obtain ⟨found, hfound, hlookup⟩ :=
    exists_lookup_covers host hfits hcount ⟨m, h.mem, h.line_eq, h.column_le⟩
  rw [hlookup, hfound.unique h]

/-- **Looking up a place finds the merged mapping that covers it.**  Nothing is found exactly on line zero
and where no merged mapping of the line, which is counted from one, stands at the column or before it.
Otherwise one merged mapping covers the place and no other does, and its host side is the answer. -/
theorem lookup_encode (host : Host) (coalesced overrides : List Mapping)
    (hfits : ∀ m ∈ coalesced ++ overrides, m.Fits)
    (hcount : coalesced.length + overrides.length ≤ 2 ^ 63) (line column : Nat) :
    let merged := Mapping.merge coalesced overrides
    let map := encode host coalesced overrides
    (map.lookup line column = .ok none ↔
      line = 0 ∨ ¬ ∃ m ∈ merged, m.line = line - 1 ∧ m.column ≤ column) ∧
    (line ≠ 0 → (∃ m ∈ merged, m.line = line - 1 ∧ m.column ≤ column) →
      ∃ m, (∀ other, Mapping.Covers merged (line - 1) column other ↔ other = m) ∧
        map.lookup line column =
          .ok (some { source := host.path, line := m.target.line + 1, column := m.target.column,
                      name := m.target.name })) := by
  intro merged map
  have hfits' : ∀ m ∈ merged, m.Fits := fun m hm =>
    hfits m (List.mem_append.2 (Mapping.mem_of_mem_merge hm))
  have hcount' : merged.length ≤ 2 ^ 63 := (Mapping.length_merge_le _ _).trans hcount
  cases line with
  | zero => exact ⟨by simp [lookup], fun h => absurd rfl h⟩
  | succ line =>
      rw [Nat.add_sub_cancel]
      by_cases hbefore : ∃ m ∈ merged, m.line = line ∧ m.column ≤ column
      · obtain ⟨m, hcovers, hlookup⟩ := exists_lookup_covers host hfits' hcount' hbefore
        refine ⟨iff_of_false ?_ ?_, fun _ _ => ⟨m, ?_, hlookup⟩⟩
        · rw [hlookup]
          simp
        · simpa using hbefore
        · intro other
          constructor
          · exact fun hother => hother.unique hcovers
          · rintro rfl
            exact hcovers
      · refine ⟨iff_of_true ?_ (Or.inr hbefore), fun _ h => absurd h hbefore⟩
        refine lookup_of_forall_lt host hfits' hcount' ?_
        intro m hm hline
        by_contra hle
        exact hbefore ⟨m, hm, hline, Nat.le_of_not_lt hle⟩

/-- An override and a coalesced mapping share a column: right of it the override is found, left of it
nothing is. -/
theorem lookup_encode_shared_column :
    ∃ coalesced overrides : List Mapping,
      coalesced =
        [⟨0, 7, ⟨1, 4, none⟩, .coalesced⟩, ⟨0, 2 ^ 63 - 1, ⟨3, 0, none⟩, .coalesced⟩] ∧
      overrides = [⟨0, 7, ⟨2, 5, some "x"⟩, .override⟩] ∧
      (∀ m ∈ coalesced ++ overrides, m.Fits) ∧
      coalesced.length + overrides.length ≤ 2 ^ 63 ∧
      (encode ⟨"host", "text"⟩ coalesced overrides).lookup 1 9 =
        .ok (some { source := "host", line := 3, column := 5, name := some "x" }) ∧
      (encode ⟨"host", "text"⟩ coalesced overrides).lookup 1 6 = .ok none := by
  refine ⟨_, _, rfl, rfl, ?_⟩
  have hmerge : Mapping.merge
      [⟨0, 7, ⟨1, 4, none⟩, .coalesced⟩, ⟨0, 2 ^ 63 - 1, ⟨3, 0, none⟩, .coalesced⟩]
      [⟨0, 7, ⟨2, 5, some "x"⟩, .override⟩] =
      [⟨0, 7, ⟨2, 5, some "x"⟩, .override⟩, ⟨0, 2 ^ 63 - 1, ⟨3, 0, none⟩, .coalesced⟩] := by
    simp [Mapping.merge, List.mergeSort, Mapping.notAfter, Mapping.Precedes, Mapping.settleAll,
      Mapping.settle, Mapping.samePlace, Mapping.keep]
  have hfits : ∀ m ∈ ([⟨0, 7, ⟨1, 4, none⟩, .coalesced⟩,
      ⟨0, 2 ^ 63 - 1, ⟨3, 0, none⟩, .coalesced⟩] : List Mapping)
        ++ [⟨0, 7, ⟨2, 5, some "x"⟩, .override⟩], m.Fits := by
    intro m hm
    simp only [List.cons_append, List.nil_append, List.mem_cons, List.not_mem_nil, or_false] at hm
    rcases hm with rfl | rfl | rfl <;> exact ⟨by decide, by decide, by decide⟩
  refine ⟨hfits, by decide, ?_, ?_⟩
  · obtain ⟨m, hcovers, hlookup⟩ := (lookup_encode ⟨"host", "text"⟩ _ _ hfits (by decide) 1 9).2
      (by decide) (by rw [hmerge]; decide)
    have hm : ⟨0, 7, ⟨2, 5, some "x"⟩, .override⟩ = m := by
      refine (hcovers _).1 ⟨?_, rfl, by decide, ?_⟩
      · rw [hmerge]
        decide
      · rw [hmerge]
        decide
    rw [hlookup, ← hm]
  · refine (lookup_encode ⟨"host", "text"⟩ _ _ hfits (by decide) 1 6).1.2 (Or.inr ?_)
    rw [hmerge]
    decide

end Lookup

end PositionMap

end Inlay
