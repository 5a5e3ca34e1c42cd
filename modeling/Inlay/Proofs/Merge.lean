/-
**What merging keeps.**

`Inlay/Map/Mapping.lean` merges the mappings of two passes by sorting them by generated place and then
keeping one mapping of each run of equal places.  Sorting is stable, so what becomes of a place depends
only on the mappings inserted there, in order of insertion.  This module proves that: the merged list
is strictly increasing, and at each place it holds what `Inlay.Mapping.keep` leaves of the mappings
inserted there.

Main definitions:

* `Inlay.Mapping.isOverride` — whether a mapping was made for an anchor;
* `Inlay.Mapping.isAt` — whether a mapping has a given generated place;
* `Inlay.Mapping.survivor` — what is kept of the mappings of one place.

Main results:

* `Inlay.Mapping.pairwise_merge` — **the merged list is strictly increasing**;
* `Inlay.Mapping.filter_merge` — **each place holds the survivor of what was inserted there**;
* `Inlay.Mapping.mem_merge_iff` — the members of the merged list;
* `Inlay.Mapping.survivor_eq_or` — **the last override survives**, and if there is none the last insertion;
* `Inlay.Mapping.mem_merge_of_isOverride` — an override that has its place to itself stays;
* `Inlay.Mapping.merge_keeps_last` — **one mapping for each place, the last override or else the last
  insertion**, and merging again changes nothing.
-/
import Inlay.Map.Mapping
import Mathlib.Data.List.Basic

set_option autoImplicit false

namespace Inlay.Mapping

/-! ### The order of places -/

theorem notAfter_iff {a b : Mapping} : notAfter a b = true ↔ ¬ Precedes b a := by
  simp [notAfter]

theorem notAfter_trans (a b c : Mapping) (hab : notAfter a b = true) (hbc : notAfter b c = true) :
    notAfter a c = true := by
  rw [notAfter_iff] at *
  unfold Precedes at *
  omega

theorem notAfter_total (a b : Mapping) : (notAfter a b || notAfter b a) = true := by
  rw [Bool.or_eq_true, notAfter_iff, notAfter_iff]
  unfold Precedes
  omega

/-- What is not after a mapping of a later place stands at a later place as well. -/
theorem Precedes.of_notAfter {a b c : Mapping} (hab : Precedes a b) (hbc : notAfter b c = true) :
    Precedes a c := by
  rw [notAfter_iff] at hbc
  unfold Precedes at *
  omega

theorem samePlace_iff {a b : Mapping} :
    a.samePlace b = true ↔ a.line = b.line ∧ a.column = b.column := by
  simp [samePlace]

/-- In order and not of one place means strictly in order. -/
theorem precedes_of_notAfter {a b : Mapping} (h : notAfter a b = true)
    (hne : ¬ a.samePlace b = true) : Precedes a b := by
  rw [notAfter_iff] at h
  rw [samePlace_iff] at hne
  unfold Precedes at *
  omega

theorem not_samePlace_of_precedes {a b : Mapping} (h : Precedes a b) : ¬ a.samePlace b = true := by
  rw [samePlace_iff]
  unfold Precedes at h
  omega

theorem notAfter_of_precedes {a b : Mapping} (h : Precedes a b) : notAfter a b = true := by
  rw [notAfter_iff]
  unfold Precedes at *
  omega

/-! ### Two mappings of one place -/

theorem keep_eq_or (a b : Mapping) : a.keep b = a ∨ a.keep b = b := by
  unfold keep
  split
  · exact Or.inl rfl
  · exact Or.inr rfl

/-- Whether a mapping was made for an anchor. -/
def isOverride (mapping : Mapping) : Bool :=
  mapping.origin == .override

theorem keep_of_isOverride {a b : Mapping} (ha : isOverride a = true) (hb : isOverride b = false) :
    a.keep b = a := by
  rw [isOverride, beq_iff_eq] at ha
  rw [isOverride, beq_eq_false_iff_ne] at hb
  exact if_pos ⟨ha, hb⟩

theorem keep_of_imp {a b : Mapping} (h : isOverride a = true → isOverride b = true) :
    a.keep b = b := by
  rw [isOverride, isOverride, beq_iff_eq, beq_iff_eq] at h
  exact if_neg fun hboth => hboth.2 (h hboth.1)

/-! ### One place -/

/-- Whether a mapping has a given generated place. -/
def isAt (line column : Nat) (mapping : Mapping) : Bool :=
  mapping.line == line && mapping.column == column

@[simp] theorem isAt_iff {line column : Nat} {mapping : Mapping} :
    isAt line column mapping = true ↔ mapping.line = line ∧ mapping.column = column := by
  simp [isAt]

/-- Mappings of one place stand at the same places. -/
theorem isAt_congr {a b : Mapping} (h : a.samePlace b = true) (line column : Nat) :
    isAt line column a = isAt line column b := by
  obtain ⟨hline, hcolumn⟩ := samePlace_iff.1 h
  simp [isAt, hline, hcolumn]

theorem isAt_keep {a b : Mapping} (h : a.samePlace b = true) (line column : Nat) :
    isAt line column (a.keep b) = isAt line column a := by
  rcases keep_eq_or a b with hk | hk <;> rw [hk]
  exact (isAt_congr h line column).symm

/-- What is kept of the mappings of one place, given in order of insertion. -/
def survivor : List Mapping → Option Mapping
  | [] => none
  | first :: rest => some (rest.foldl keep first)

@[simp] theorem survivor_nil : survivor [] = none := rfl

@[simp] theorem survivor_singleton (mapping : Mapping) : survivor [mapping] = some mapping := rfl

theorem survivor_cons_cons (a b : Mapping) (rest : List Mapping) :
    survivor (a :: b :: rest) = survivor (a.keep b :: rest) := rfl

/-- The last override survives, and if there is none the last insertion. -/
theorem survivor_eq_or (mappings : List Mapping) :
    survivor mappings = (mappings.filter isOverride).getLast?.or mappings.getLast? := by
  cases mappings with
  | nil => rfl
  | cons first rest =>
      induction rest generalizing first with
      | nil => cases h : isOverride first <;> simp [h]
      | cons next rest ih =>
          rw [survivor_cons_cons, ih]
          cases hfirst : isOverride first with
          | false => simp [keep_of_imp, hfirst, List.getLast?_cons_cons]
          | true =>
              cases hnext : isOverride next with
              | false => simp [keep_of_isOverride hfirst hnext, hfirst, hnext, List.getLast?_cons]
              | true => simp [keep_of_imp, hfirst, hnext, List.getLast?_cons_cons]

/-- Of the mappings of one place nothing survives if there are none, else the last override, and if there
is no override the last one. -/
theorem survivor_cases (here : List Mapping) :
    (here = [] ∧ survivor here = none) ∨
      ∃ m, survivor here = some m ∧
        if here.any isOverride then (here.filter isOverride).getLast? = some m
        else here.getLast? = some m := by
  rw [survivor_eq_or]
  cases hoverride : (here.filter isOverride).getLast? with
  | some m =>
      have hmem := List.mem_filter.1 (List.mem_of_getLast? hoverride)
      have hany : here.any isOverride = true := List.any_eq_true.2 ⟨m, hmem⟩
      exact Or.inr ⟨m, Option.some_or, by rw [if_pos hany]⟩
  | none =>
      have hnone := List.filter_eq_nil_iff.1 (List.getLast?_eq_none_iff.1 hoverride)
      have hany : ¬ here.any isOverride = true := by simpa using hnone
      rw [Option.none_or]
      cases hlast : here.getLast? with
      | none => exact Or.inl ⟨List.getLast?_eq_none_iff.1 hlast, rfl⟩
      | some m => exact Or.inr ⟨m, rfl, by rw [if_neg hany]⟩

/-- Without overrides the last insertion survives. -/
theorem survivor_eq_getLast? {mappings : List Mapping}
    (h : ∀ m ∈ mappings, m.origin = .coalesced) : survivor mappings = mappings.getLast? := by
  have hnone : mappings.filter isOverride = [] := by
    rw [List.filter_eq_nil_iff]
    intro m hm
    simp [isOverride, h m hm]
  rw [survivor_eq_or, hnone, List.getLast?_nil, Option.none_or]

/-! ### Runs of equal places in a sorted list -/

/-- After a mapping and a next one of another place, everything stands at a later place. -/
theorem precedes_of_pairwise {current next : Mapping} {rest : List Mapping}
    (hsorted : (current :: next :: rest).Pairwise (notAfter · ·))
    (hne : ¬ current.samePlace next = true) : ∀ m ∈ next :: rest, Precedes current m := by
  have hnext : Precedes current next :=
    precedes_of_notAfter (List.rel_of_pairwise_cons hsorted (by simp)) hne
  intro m hm
  rcases List.mem_cons.1 hm with rfl | hm
  · exact hnext
  · exact hnext.of_notAfter (List.rel_of_pairwise_cons hsorted.of_cons hm)

/-- A run can be shortened by one without spoiling the order. -/
theorem pairwise_keep {current next : Mapping} {rest : List Mapping}
    (hsorted : (current :: next :: rest).Pairwise (notAfter · ·)) :
    (current.keep next :: rest).Pairwise (notAfter · ·) := by
  rcases keep_eq_or current next with hk | hk <;> rw [hk]
  · exact hsorted.sublist (List.Sublist.cons_cons _ (List.sublist_cons_self _ _))
  · exact hsorted.of_cons

theorem mem_of_mem_settle {current m : Mapping} {rest : List Mapping}
    (h : m ∈ settle current rest) : m ∈ current :: rest := by
  fun_induction settle current rest with
  | case1 current => exact h
  | case2 current next rest hsame ih =>
      have := ih h
      rcases keep_eq_or current next with hk | hk <;> rw [hk] at this <;>
        simp only [List.mem_cons] at this ⊢ <;> tauto
  | case3 current next rest hne ih =>
      rcases List.mem_cons.1 h with rfl | h
      · exact List.mem_cons_self ..
      · exact List.mem_cons_of_mem _ (ih h)

theorem pairwise_settle {current : Mapping} {rest : List Mapping}
    (hsorted : (current :: rest).Pairwise (notAfter · ·)) :
    (settle current rest).Pairwise Precedes := by
  fun_induction settle current rest with
  | case1 current => exact List.pairwise_singleton ..
  | case2 current next rest hsame ih => exact ih (pairwise_keep hsorted)
  | case3 current next rest hne ih =>
      refine List.Pairwise.cons ?_ (ih hsorted.of_cons)
      intro m hm
      exact precedes_of_pairwise hsorted hne m (mem_of_mem_settle hm)

/-- A place that comes after the first mapping of a sorted list is not its place. -/
theorem filter_isAt_eq_nil {current : Mapping} {rest : List Mapping} {line column : Nat}
    (hat : isAt line column current = true) (hlater : ∀ m ∈ rest, Precedes current m) :
    rest.filter (isAt line column) = [] := by
  rw [List.filter_eq_nil_iff]
  intro m hm hm'
  have hprec := hlater m hm
  rw [isAt_iff] at hat hm'
  unfold Precedes at hprec
  omega

/-- Of a sorted list, each place holds the survivor of its run. -/
theorem filter_settle {current : Mapping} {rest : List Mapping} (line column : Nat)
    (hsorted : (current :: rest).Pairwise (notAfter · ·)) :
    (settle current rest).filter (isAt line column) =
      (survivor ((current :: rest).filter (isAt line column))).toList := by
  fun_induction settle current rest with
  | case1 current => cases h : isAt line column current <;> simp [h]
  | case2 current next rest hsame ih =>
      rw [ih (pairwise_keep hsorted)]
      -- the run is one mapping shorter, and its survivor is the same
      cases h : isAt line column current with
      | false => simp [← isAt_congr hsame, isAt_keep hsame, h]
      | true => simp [← isAt_congr hsame, isAt_keep hsame, h, survivor_cons_cons]
  | case3 current next rest hne ih =>
      have hlater := precedes_of_pairwise hsorted hne
      cases h : isAt line column current with
      | false =>
          rw [List.filter_cons_of_neg (by simp [h]), List.filter_cons_of_neg (by simp [h]),
            ih hsorted.of_cons]
      | true =>
          have hnil := filter_isAt_eq_nil h hlater
          rw [List.filter_cons_of_pos h, List.filter_cons_of_pos h, ih hsorted.of_cons, hnil]
          rfl

/-! ### Merging -/

theorem pairwise_mergeSort_notAfter (mappings : List Mapping) :
    (mappings.mergeSort notAfter).Pairwise (notAfter · ·) :=
  List.pairwise_mergeSort notAfter_trans notAfter_total mappings

/-- Sorting is stable: it leaves the mappings of one place as they are. -/
theorem filter_mergeSort (mappings : List Mapping) (line column : Nat) :
    (mappings.mergeSort notAfter).filter (isAt line column) =
      mappings.filter (isAt line column) := by
  -- mappings of one place are in order however they stand, so a stable sort keeps them as a sublist
  have hequal : (mappings.filter (isAt line column)).Pairwise (notAfter · ·) := by
    refine List.pairwise_of_forall_mem_list ?_
    intro a ha b hb
    have ha' := (isAt_iff.1 (List.mem_filter.1 ha).2)
    have hb' := (isAt_iff.1 (List.mem_filter.1 hb).2)
    rw [notAfter_iff]
    unfold Precedes
    omega
  have hsub := List.sublist_mergeSort notAfter_trans notAfter_total hequal List.filter_sublist
  have hsub' := hsub.filter (isAt line column)
  rw [List.filter_filter] at hsub'
  simp only [Bool.and_self] at hsub'
  refine (hsub'.eq_of_length ?_).symm
  exact ((List.mergeSort_perm mappings notAfter).filter _).length_eq.symm

/-- **The merged list is strictly increasing.** -/
theorem pairwise_merge (coalesced overrides : List Mapping) :
    (merge coalesced overrides).Pairwise Precedes := by
  have hsorted := pairwise_mergeSort_notAfter (coalesced ++ overrides)
  unfold merge settleAll
  split
  · exact List.Pairwise.nil
  · next heq =>
      rw [heq] at hsorted
      exact pairwise_settle hsorted

/-- **Each place holds the survivor of what was inserted there.** -/
theorem filter_merge (coalesced overrides : List Mapping) (line column : Nat) :
    (merge coalesced overrides).filter (isAt line column) =
      (survivor ((coalesced ++ overrides).filter (isAt line column))).toList := by
  have hsorted := pairwise_mergeSort_notAfter (coalesced ++ overrides)
  rw [← filter_mergeSort (coalesced ++ overrides)]
  unfold merge settleAll
  split
  · next heq => simp [heq]
  · next heq =>
      rw [heq] at hsorted ⊢
      exact filter_settle line column hsorted

/-- The members of the merged list are the survivors of their places. -/
theorem mem_merge_iff {coalesced overrides : List Mapping} {m : Mapping} :
    m ∈ merge coalesced overrides ↔
      survivor ((coalesced ++ overrides).filter (isAt m.line m.column)) = some m := by
  have hat : isAt m.line m.column m = true := by simp
  have hmem : m ∈ merge coalesced overrides ↔
      m ∈ (merge coalesced overrides).filter (isAt m.line m.column) := by
    rw [List.mem_filter, and_iff_left hat]
  rw [hmem, filter_merge, Option.mem_toList]

/-- An override stays in the merged list if no other one has its place. -/
theorem mem_merge_of_isOverride {coalesced overrides : List Mapping} {m : Mapping}
    (hm : m ∈ coalesced ++ overrides) (hoverride : isOverride m = true)
    (halone : ∀ other ∈ coalesced ++ overrides, isOverride other = true →
      other.line = m.line → other.column = m.column → other = m) :
    m ∈ merge coalesced overrides := by
  have hmem : m ∈ ((coalesced ++ overrides).filter (isAt m.line m.column)).filter isOverride :=
    List.mem_filter.2 ⟨List.mem_filter.2 ⟨hm, isAt_iff.2 ⟨rfl, rfl⟩⟩, hoverride⟩
  rw [mem_merge_iff, survivor_eq_or]
  cases hlast : (((coalesced ++ overrides).filter (isAt m.line m.column)).filter
      isOverride).getLast? with
  | none =>
      rw [List.getLast?_eq_none_iff.1 hlast] at hmem
      cases hmem
  | some last =>
      obtain ⟨hlast, hother⟩ := List.mem_filter.1 (List.mem_of_getLast? hlast)
      obtain ⟨hinserted, hat⟩ := List.mem_filter.1 hlast
      obtain ⟨hline, hcolumn⟩ := isAt_iff.1 hat
      rw [halone last hinserted hother hline hcolumn, Option.some_or]

/-- Nothing is made up: what is merged was inserted by one of the passes. -/
theorem mem_of_mem_merge {coalesced overrides : List Mapping} {m : Mapping}
    (h : m ∈ merge coalesced overrides) : m ∈ coalesced ∨ m ∈ overrides := by
  have hmem : m ∈ (coalesced ++ overrides).mergeSort notAfter := by
    unfold merge settleAll at h
    split at h
    · simp at h
    · next heq =>
        rw [heq]
        exact mem_of_mem_settle h
  rw [List.mem_mergeSort] at hmem
  exact List.mem_append.1 hmem

/-! ### Merging again -/

/-- A strictly increasing list has no two mappings of one place, so nothing of it is given up. -/
theorem settle_of_pairwise {current : Mapping} {rest : List Mapping}
    (h : (current :: rest).Pairwise Precedes) : settle current rest = current :: rest := by
  induction rest generalizing current with
  | nil => rfl
  | cons next rest ih =>
      have hnext := List.rel_of_pairwise_cons h (List.mem_cons_self ..)
      rw [settle, if_neg (not_samePlace_of_precedes hnext), ih h.of_cons]

theorem merge_nil_of_pairwise {mappings : List Mapping} (h : mappings.Pairwise Precedes) :
    merge mappings [] = mappings := by
  have hsorted : mappings.mergeSort notAfter = mappings :=
    List.mergeSort_of_pairwise (h.imp notAfter_of_precedes)
  rw [merge, List.append_nil, hsorted]
  cases mappings with
  | nil => rfl
  | cons first rest => exact settle_of_pairwise h

/-- **Merging is a choice at each place.**  The merged list is strictly increasing.  At a place where
nothing was inserted it has nothing, and at any other it has one mapping: the last override inserted
there, and if there is none the last insertion.  So merging again changes nothing. -/
theorem merge_keeps_last (coalesced overrides : List Mapping) :
    let merged := merge coalesced overrides
    merged.Pairwise Precedes ∧
    (∀ line column,
      let here := (coalesced ++ overrides).filter (isAt line column)
      (here = [] ∧ merged.filter (isAt line column) = []) ∨
        ∃ m, merged.filter (isAt line column) = [m] ∧
          if here.any isOverride then (here.filter isOverride).getLast? = some m
          else here.getLast? = some m) ∧
    merge merged [] = merged := by
  intro merged
  have hsorted : merged.Pairwise Precedes := pairwise_merge coalesced overrides
  refine ⟨hsorted, ?_, merge_nil_of_pairwise hsorted⟩
  intro line column here
  have hfilter : merged.filter (isAt line column) = (survivor here).toList :=
    filter_merge coalesced overrides line column
  rcases survivor_cases here with ⟨hnil, hnone⟩ | ⟨m, hsome, hlast⟩
  · exact Or.inl ⟨hnil, by rw [hfilter, hnone, Option.toList_none]⟩
  · exact Or.inr ⟨m, by rw [hfilter, hsome, Option.toList_some], hlast⟩

/-- Two overrides stand at one place, and the last insertion there is none. -/
example :
    merge
      [⟨1, 4, ⟨0, 0, none⟩, .coalesced⟩, ⟨0, 2, ⟨0, 1, none⟩, .override⟩,
        ⟨0, 2, ⟨0, 2, none⟩, .override⟩, ⟨1, 4, ⟨0, 3, none⟩, .coalesced⟩]
      [⟨0, 2, ⟨0, 4, none⟩, .coalesced⟩] =
    [⟨0, 2, ⟨0, 2, none⟩, .override⟩, ⟨1, 4, ⟨0, 3, none⟩, .coalesced⟩] := by
  cbv

end Inlay.Mapping
