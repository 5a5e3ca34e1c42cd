/-
**Position maps read back.**

The encoder writes differences: the generated column starts again on every line, the host line, the host
column and the name index run on, and the name index moves only where there is a name.  The decoder keeps
the same values.  The proof runs the two side by side: the cursor of the encoder *is* the state of the
reader, so one segment is read back in one step and a list of mappings by induction.

Main definitions:

* `Inlay.Mapping.Fits` — the positions of a mapping are signed words;
* `Inlay.PositionMap.ReadsAs` — a decoded mapping says what a mapping says, its name through a table;
* `Inlay.PositionMap.Cursor.running` — the running values of the reader at a cursor.

Main results:

* `Inlay.Mapping.nodup_names`, `Inlay.Mapping.mem_names_iff`, `Inlay.Mapping.pairwise_names` — the table
  of names holds every name once, in order of first appearance;
* `Inlay.PositionMap.readSegment_segment` — one segment is read back;
* `Inlay.PositionMap.readFrom_encodeFrom` — so are the mappings after any cursor;
* `Inlay.PositionMap.decode_encode` — **a position map decodes to the merged mappings**.
-/
import Inlay.Proofs.Decoding
import Inlay.Proofs.Merge
import Inlay.Proofs.Vlq
import Mathlib.Data.List.Induction
import Mathlib.Data.List.Perm.Subperm

set_option autoImplicit false

namespace Inlay

namespace Mapping

/-! ### The table of names -/

/-- The names of mappings in order, with repetitions. -/
def mentions (mappings : List Mapping) : List String :=
  mappings.filterMap (·.target.name)

theorem mem_mentions {mappings : List Mapping} {name : String} :
    name ∈ mentions mappings ↔ ∃ m ∈ mappings, m.target.name = some name := by
  simp [mentions]

/-- The strings of a list, each once, in order of first appearance. -/
def distinct (xs : List String) : List String :=
  xs.foldl (fun seen name => if seen.contains name then seen else seen ++ [name]) []

theorem names_eq_distinct (mappings : List Mapping) : names mappings = distinct (mentions mappings) :=
  rfl

theorem distinct_concat (xs : List String) (x : String) :
    distinct (xs ++ [x]) = if x ∈ distinct xs then distinct xs else distinct xs ++ [x] := by
  simp [distinct, List.foldl_append]

theorem mem_distinct_iff {xs : List String} {name : String} : name ∈ distinct xs ↔ name ∈ xs := by
  induction xs using List.reverseRecOn with
  | nil => simp [distinct]
  | append_singleton xs x ih =>
      rw [distinct_concat, List.mem_append, List.mem_singleton, ← ih]
      split
      · next hx =>
          constructor
          · exact Or.inl
          · rintro (h | rfl)
            · exact h
            · exact hx
      · rw [List.mem_append, List.mem_singleton]

/-- What appears first is listed first. -/
theorem pairwise_distinct (xs : List String) :
    (distinct xs).Pairwise fun a b => xs.idxOf a < xs.idxOf b := by
  induction xs using List.reverseRecOn with
  | nil => exact List.Pairwise.nil
  | append_singleton xs x ih =>
      have hold : (distinct xs).Pairwise fun a b => (xs ++ [x]).idxOf a < (xs ++ [x]).idxOf b := by
        refine ih.imp_of_mem ?_
        intro a b ha hb hab
        rwa [List.idxOf_append_of_mem (mem_distinct_iff.1 ha),
          List.idxOf_append_of_mem (mem_distinct_iff.1 hb)]
      rw [distinct_concat]
      split
      · exact hold
      · next hx =>
          -- a new name comes last in the table, and in the list it comes last as well
          rw [mem_distinct_iff] at hx
          refine List.pairwise_append.2 ⟨hold, List.pairwise_singleton .., ?_⟩
          intro a ha b hb
          have ha' : a ∈ xs := mem_distinct_iff.1 ha
          rw [List.mem_singleton.1 hb, List.idxOf_append_of_mem ha',
            List.idxOf_append_of_notMem hx]
          exact lt_of_lt_of_le (List.idxOf_lt_length_iff.2 ha') (Nat.le_add_right _ _)

/-- Every name of the mappings is in their table, and no other string. -/
theorem mem_names_iff {mappings : List Mapping} {name : String} :
    name ∈ names mappings ↔ ∃ m ∈ mappings, m.target.name = some name := by
  rw [names_eq_distinct, mem_distinct_iff, mem_mentions]

/-- Names are listed in order of first appearance. -/
theorem pairwise_names (mappings : List Mapping) :
    (names mappings).Pairwise fun a b =>
      (mentions mappings).idxOf a < (mentions mappings).idxOf b :=
  pairwise_distinct (mentions mappings)

theorem nodup_names (mappings : List Mapping) : (names mappings).Nodup :=
  (pairwise_names mappings).imp fun h heq => absurd (heq ▸ h) (lt_irrefl _)

/-- There are no more names than mappings. -/
theorem length_names_le (mappings : List Mapping) : (names mappings).length ≤ mappings.length := by
  have hsub : names mappings ⊆ mentions mappings := by
    intro name hname
    rw [names_eq_distinct, mem_distinct_iff] at hname
    exact hname
  exact (List.subperm_of_subset (nodup_names mappings) hsub).length_le.trans
    (List.length_filterMap_le _ _)

/-- Merging makes no more mappings than it is given. -/
theorem length_merge_le (coalesced overrides : List Mapping) :
    (merge coalesced overrides).length ≤ coalesced.length + overrides.length := by
  have hnodup : (merge coalesced overrides).Nodup := by
    refine (pairwise_merge coalesced overrides).imp ?_
    rintro a b hab rfl
    unfold Precedes at hab
    omega
  have hsub : merge coalesced overrides ⊆ coalesced ++ overrides := fun m hm =>
    List.mem_append.2 (mem_of_mem_merge hm)
  simpa using (List.subperm_of_subset hnodup hsub).length_le

/-- The generated column and the host position of a mapping are signed words. -/
structure Fits (mapping : Mapping) : Prop where
  column : mapping.column ≤ 2 ^ 63 - 1
  hostLine : mapping.target.line ≤ 2 ^ 63 - 1
  hostColumn : mapping.target.column ≤ 2 ^ 63 - 1

end Mapping

namespace PositionMap

/-! ### Signed words -/

/-- Whether a number is a position that a signed word can hold. -/
def IsPosition (n : Int) : Prop :=
  0 ≤ n ∧ n < 0x8000000000000000

theorem isPosition_natCast {n : Nat} (h : n ≤ 2 ^ 63 - 1) : IsPosition (n : Int) :=
  ⟨by omega, by omega⟩

theorem IsPosition.fits {n : Int} (h : IsPosition n) : Word.Fits n := by
  obtain ⟨hlow, hhigh⟩ := h
  exact ⟨by omega, hhigh⟩

theorem signed_natCast {n : Nat} (h : n ≤ 2 ^ 63 - 1) : Word.signed n = n :=
  Word.signed_of_fits (isPosition_natCast h).fits

theorem IsPosition.writable_sub {new old : Int} (hnew : IsPosition new) (hold : IsPosition old) :
    Vlq.Writable (new - old) := by
  unfold IsPosition at hnew hold
  unfold Vlq.Writable
  omega

/-- The difference of two positions is written without loss. -/
theorem difference_eq {new old : Int} (hnew : IsPosition new) (hold : IsPosition old) :
    Cursor.difference new old = Vlq.encode (new - old) := by
  obtain ⟨hlow, hhigh⟩ := hnew.writable_sub hold
  rw [Cursor.difference, Word.signed_of_fits ⟨by omega, hhigh⟩]

/-- A position moved by a difference. -/
theorem advance_sub {new : Int} (hnew : IsPosition new) (old : Int) (fault : MappingFault) :
    advance old (new - old) fault = .ok new := by
  have hsum : old + (new - old) = new := by omega
  rw [advance, Word.addSigned?, hsum, if_pos hnew.fits]

@[simp] theorem index?_natCast (n : Nat) : index? (n : Int) = some n := by
  simp [index?]

@[simp] theorem position_natCast (n : Nat) (fault : MappingFault) :
    position (n : Int) fault = .ok n := by
  simp [position]

/-! ### One segment -/

namespace Cursor

/-- The running values of the reader at a cursor. -/
def running (cursor : Cursor) : Running where
  source := 0
  hostLine := cursor.hostLine
  hostColumn := cursor.hostColumn
  name := cursor.name

/-- All values of a cursor are positions. -/
structure Bounded (cursor : Cursor) : Prop where
  column : IsPosition cursor.column
  hostLine : IsPosition cursor.hostLine
  hostColumn : IsPosition cursor.hostColumn
  name : IsPosition cursor.name

theorem Bounded.baseColumn {cursor : Cursor} (h : cursor.Bounded) (line : Nat) :
    IsPosition (cursor.baseColumn line) := by
  unfold Cursor.baseColumn
  split
  · exact ⟨by omega, by omega⟩
  · exact h.column

variable {cursor : Cursor} {mapping : Mapping} {index : Option Nat}

theorem after_column (cursor : Cursor) (index : Option Nat) (hm : mapping.Fits) :
    (cursor.after mapping index).column = mapping.column := by
  simp only [Cursor.after, signed_natCast hm.column]

theorem after_hostLine (cursor : Cursor) (index : Option Nat) (hm : mapping.Fits) :
    (cursor.after mapping index).hostLine = mapping.target.line := by
  simp only [Cursor.after, signed_natCast hm.hostLine]

theorem after_hostColumn (cursor : Cursor) (index : Option Nat) (hm : mapping.Fits) :
    (cursor.after mapping index).hostColumn = mapping.target.column := by
  simp only [Cursor.after, signed_natCast hm.hostColumn]

theorem after_name (cursor : Cursor) (mapping : Mapping) (hindex : ∀ i ∈ index, i ≤ 2 ^ 63 - 1) :
    (cursor.after mapping index).name = (index.map Int.ofNat).getD cursor.name := by
  cases index with
  | none => rfl
  | some i => simp [Cursor.after, signed_natCast (hindex i rfl)]

/-- The cursor after a mapping that fits is bounded again. -/
theorem Bounded.after (h : cursor.Bounded) (hm : mapping.Fits)
    (hindex : ∀ i ∈ index, i ≤ 2 ^ 63 - 1) : (cursor.after mapping index).Bounded where
  column := by
    rw [after_column _ _ hm]
    exact isPosition_natCast hm.column
  hostLine := by
    rw [after_hostLine _ _ hm]
    exact isPosition_natCast hm.hostLine
  hostColumn := by
    rw [after_hostColumn _ _ hm]
    exact isPosition_natCast hm.hostColumn
  name := by
    rw [after_name _ _ hindex]
    cases index with
    | none => exact h.name
    | some i => exact isPosition_natCast (hindex i rfl)

/-- The numbers of a segment. -/
def values (cursor : Cursor) (mapping : Mapping) (index : Option Nat) : List Int :=
  [mapping.column - cursor.baseColumn mapping.line, 0, mapping.target.line - cursor.hostLine,
    mapping.target.column - cursor.hostColumn]
    ++ (index.map fun i : Nat => (i : Int) - cursor.name).toList

/-- A segment is the text of its numbers. -/
theorem segment_eq (h : cursor.Bounded) (hm : mapping.Fits)
    (hindex : ∀ i ∈ index, i ≤ 2 ^ 63 - 1) :
    cursor.segment mapping index = (cursor.values mapping index).flatMap Vlq.encode := by
  unfold segment
  rw [signed_natCast hm.column, signed_natCast hm.hostLine, signed_natCast hm.hostColumn,
    difference_eq (isPosition_natCast hm.column) (h.baseColumn _),
    difference_eq (isPosition_natCast hm.hostLine) h.hostLine,
    difference_eq (isPosition_natCast hm.hostColumn) h.hostColumn]
  cases index with
  | none => simp [values]
  | some i =>
      have hi : i ≤ 2 ^ 63 - 1 := hindex i rfl
      simp [values, signed_natCast hi, difference_eq (isPosition_natCast hi) h.name]

theorem writable_of_mem_values (h : cursor.Bounded) (hm : mapping.Fits)
    (hindex : ∀ i ∈ index, i ≤ 2 ^ 63 - 1) :
    ∀ n ∈ cursor.values mapping index, Vlq.Writable n := by
  intro n hn
  rcases List.mem_append.1 hn with hn | hn
  · simp only [List.mem_cons, List.not_mem_nil, or_false] at hn
    rcases hn with rfl | rfl | rfl | rfl
    · exact (isPosition_natCast hm.column).writable_sub (h.baseColumn _)
    · exact ⟨by omega, by omega⟩
    · exact (isPosition_natCast hm.hostLine).writable_sub h.hostLine
    · exact (isPosition_natCast hm.hostColumn).writable_sub h.hostColumn
  · obtain ⟨i, hi, rfl⟩ := Option.map_eq_some_iff.1 (Option.mem_toList.1 hn)
    exact (isPosition_natCast (hindex i hi)).writable_sub h.name

theorem isSegment_segment (h : cursor.Bounded) (hm : mapping.Fits)
    (hindex : ∀ i ∈ index, i ≤ 2 ^ 63 - 1) : IsSegment (cursor.segment mapping index) := by
  have hdigit : ∀ c ∈ cursor.segment mapping index, (Vlq.digitValue? c).isSome := by
    intro c hc
    rw [segment_eq h hm hindex] at hc
    obtain ⟨n, _, hn⟩ := List.mem_flatMap.1 hc
    exact Vlq.digitValue?_isSome_of_mem_encode hn
  refine ⟨?_, fun hc => absurd (hdigit _ hc) (by decide), fun hc => absurd (hdigit _ hc) (by decide)⟩
  rw [segment_eq h hm hindex]
  simp [values, Vlq.encode_ne_nil]

end Cursor

/-- What is read for a mapping whose name has the given index. -/
def decodedOf (mapping : Mapping) (index : Option Nat) : DecodedMapping where
  line := mapping.line
  column := mapping.column
  source := some 0
  hostLine := mapping.target.line
  hostColumn := mapping.target.column
  name := index

section Segment

variable {cursor : Cursor} {mapping : Mapping} {index : Option Nat}

/-- The host side of a segment is read back. -/
theorem readTarget_segment (cursor : Cursor) (place : DecodedMapping) (hm : mapping.Fits)
    (hindex : ∀ i ∈ index, i ≤ 2 ^ 63 - 1) :
    readTarget place cursor.running 0 (mapping.target.line - cursor.hostLine)
        (mapping.target.column - cursor.hostColumn)
        (index.map fun i : Nat => (i : Int) - cursor.name) =
      .ok ({ place with
        source := some 0, hostLine := mapping.target.line, hostColumn := mapping.target.column,
        name := index }, (cursor.after mapping index).running) := by
  have hsource : advance 0 0 .sourceOverflow = .ok 0 := by decide
  have hline : advance cursor.hostLine (mapping.target.line - cursor.hostLine) .lineOverflow =
      .ok (mapping.target.line : Int) := advance_sub (isPosition_natCast hm.hostLine) _ _
  have hcolumn : advance cursor.hostColumn (mapping.target.column - cursor.hostColumn)
      .hostColumnOverflow = .ok (mapping.target.column : Int) :=
    advance_sub (isPosition_natCast hm.hostColumn) _ _
  simp only [readTarget, Cursor.running, hsource, hline, hcolumn, position_natCast, bind,
    Except.bind, Cursor.after_hostLine _ _ hm, Cursor.after_hostColumn _ _ hm,
    Cursor.after_name _ _ hindex]
  cases index with
  | none => rfl
  | some i =>
      have hname : advance cursor.name ((i : Int) - cursor.name) .nameOverflow = .ok (i : Int) :=
        advance_sub (isPosition_natCast (hindex i rfl)) _ _
      simp [readName, hname, bind, Except.bind, pure, Except.pure, index?]

/-- One segment is read back, and the reader is then where the encoder is. -/
theorem readSegment_segment (h : cursor.Bounded) (hm : mapping.Fits)
    (hindex : ∀ i ∈ index, i ≤ 2 ^ 63 - 1) :
    readSegment mapping.line (cursor.baseColumn mapping.line) cursor.running
        (cursor.segment mapping index) =
      .ok (decodedOf mapping index, (cursor.after mapping index).column,
        (cursor.after mapping index).running) := by
  have hvalues : Vlq.decode (cursor.segment mapping index) = .ok (cursor.values mapping index) := by
    rw [Cursor.segment_eq h hm hindex]
    exact Vlq.decode_flatMap_encode (Cursor.writable_of_mem_values h hm hindex)
  have hcolumn : advance (cursor.baseColumn mapping.line)
      (mapping.column - cursor.baseColumn mapping.line) .columnOverflow =
      .ok (mapping.column : Int) := advance_sub (isPosition_natCast hm.column) _ _
  have htarget := readTarget_segment cursor
    { line := mapping.line, column := mapping.column, source := none, hostLine := 0,
      hostColumn := 0, name := none } hm hindex
  rw [readSegment, hvalues, Cursor.after_column _ _ hm]
  cases index with
  | none =>
      simp only [Option.map_none] at htarget
      simp [Cursor.values, Except.mapError, bind, Except.bind, hcolumn, htarget, pure, Except.pure,
        decodedOf]
  | some i =>
      simp only [Option.map_some] at htarget
      simp [Cursor.values, Except.mapError, bind, Except.bind, hcolumn, htarget, pure, Except.pure,
        decodedOf]

end Segment

/-! ### All mappings after a cursor -/

/-- Over what stands before a segment: the reader comes to the line of the segment and to the column
that the segment is relative to. -/
theorem readFrom_separator {cursor : Cursor} {line : Nat} (hline : cursor.line ≤ line) (index : Nat)
    (running : Running) (cs : List Char) :
    ∃ next, readFrom cursor.line index cursor.column running (cursor.separator line ++ cs) =
      readFrom line next (cursor.baseColumn line) running cs := by
  unfold Cursor.separator Cursor.baseColumn
  split
  · next hlt =>
      refine ⟨0, ?_⟩
      rw [readFrom_replicate_semicolon (by omega), Nat.add_sub_cancel' hline]
  · next hlt =>
      have heq : cursor.line = line := by omega
      rw [heq]
      split
      · exact ⟨index, rfl⟩
      · exact ⟨index + 1, readFrom_comma ..⟩

/-- Behind a segment the text ends or goes on with a separator. -/
theorem endsSegment_encodeFrom {names : List String} {cursor : Cursor} (hfresh : cursor.fresh = false)
    (mappings : List Mapping) : EndsSegment (encodeFrom names cursor mappings) := by
  cases mappings with
  | nil => exact trivial
  | cons mapping rest =>
      unfold encodeFrom Cursor.separator
      split
      · next hlt =>
          obtain ⟨count, hcount⟩ : ∃ count, mapping.line - cursor.line = count + 1 :=
            ⟨mapping.line - cursor.line - 1, by omega⟩
          rw [hcount]
          exact Or.inr rfl
      · rw [if_neg (by simp [hfresh])]
        exact Or.inl rfl

theorem nameIndex_lt {names : List String} {mapping : Mapping} {i : Nat}
    (h : i ∈ nameIndex names mapping) : i < names.length := by
  obtain ⟨name, _, hindex⟩ := Option.bind_eq_some_iff.1 h
  exact (List.findIdx?_eq_some_iff_findIdx_eq.1 hindex).1

/-- The mappings after a cursor are read back by a reader that stands where the cursor stands. -/
theorem readFrom_encodeFrom {names : List String} (hnames : names.length ≤ 2 ^ 63)
    {mappings : List Mapping} (hfits : ∀ m ∈ mappings, m.Fits)
    (hsorted : mappings.Pairwise Mapping.Precedes) {cursor : Cursor} (hcursor : cursor.Bounded)
    (hline : ∀ m ∈ mappings, cursor.line ≤ m.line) (index : Nat) :
    readFrom cursor.line index cursor.column cursor.running (encodeFrom names cursor mappings) =
      .ok (mappings.map fun m => decodedOf m (nameIndex names m)) := by
  -- reader and cursor move together; the number of segments behind them does not matter
  induction mappings generalizing cursor index with
  | nil => exact readFrom_nil ..
  | cons mapping rest ih =>
      have hm : mapping.Fits := hfits mapping (by simp)
      have hindex : ∀ i ∈ nameIndex names mapping, i ≤ 2 ^ 63 - 1 := by
        intro i hi
        have := nameIndex_lt hi
        omega
      have hle : cursor.line ≤ mapping.line := hline mapping (by simp)
      obtain ⟨next, hnext⟩ := readFrom_separator hle index cursor.running
        (cursor.segment mapping (nameIndex names mapping)
          ++ encodeFrom names (cursor.after mapping (nameIndex names mapping)) rest)
      have hafter : (cursor.after mapping (nameIndex names mapping)).line = mapping.line :=
        Nat.max_eq_right hle
      have hrest : ∀ m ∈ rest, (cursor.after mapping (nameIndex names mapping)).line ≤ m.line := by
        intro m hmem
        have hprec := List.rel_of_pairwise_cons hsorted hmem
        unfold Mapping.Precedes at hprec
        omega
      have hstep := ih (fun m hmem => hfits m (List.mem_cons_of_mem _ hmem)) hsorted.of_cons
        (hcursor.after hm hindex) hrest next
      rw [hafter] at hstep
      rw [encodeFrom, List.append_assoc, hnext,
        readFrom_segment (Cursor.isSegment_segment hcursor hm hindex)
          (endsSegment_encodeFrom rfl rest),
        readSegment_segment hcursor hm hindex]
      simp only [hstep, Except.map, List.map_cons]

/-! ### The whole map -/

/-- A decoded mapping says what a mapping says: the same places, the only source, and the same name
through the table of names. -/
structure ReadsAs (names : List String) (mapping : Mapping) (decoded : DecodedMapping) : Prop where
  line : decoded.line = mapping.line
  column : decoded.column = mapping.column
  source : decoded.source = some 0
  hostLine : decoded.hostLine = mapping.target.line
  hostColumn : decoded.hostColumn = mapping.target.column
  name :
    match mapping.target.name with
    | none => decoded.name = none
    | some name => ∃ index, decoded.name = some index ∧ names[index]? = some name

/-- What is read for a mapping says what the mapping says, if its name is in the table. -/
theorem readsAs_decodedOf {names : List String} {mapping : Mapping}
    (h : ∀ name, mapping.target.name = some name → name ∈ names) :
    ReadsAs names mapping (decodedOf mapping (nameIndex names mapping)) where
  line := rfl
  column := rfl
  source := rfl
  hostLine := rfl
  hostColumn := rfl
  name := by
    cases hname : mapping.target.name with
    | none => simp [decodedOf, nameIndex, hname]
    | some name =>
        have hmem : name ∈ names := h name hname
        refine ⟨names.idxOf name, ?_, List.getElem?_idxOf hmem⟩
        simp only [decodedOf, nameIndex, hname, Option.bind_some]
        exact List.findIdx?_eq_some_of_exists ⟨name, hmem, beq_self_eq_true name⟩

theorem bounded_start : Cursor.Bounded {} := by
  refine ⟨?_, ?_, ?_, ?_⟩ <;> exact ⟨le_rfl, by decide⟩

section Whole

variable {coalesced overrides : List Mapping}

/-- The merged mappings are read back with the indices of their names; what was dropped in merging need
not fit. -/
theorem decode_encode_of_merge_fits (host : Host)
    (hfits : ∀ m ∈ Mapping.merge coalesced overrides, m.Fits)
    (hcount : (Mapping.merge coalesced overrides).length ≤ 2 ^ 63) :
    (encode host coalesced overrides).decode =
      .ok ((Mapping.merge coalesced overrides).map fun m =>
        decodedOf m (nameIndex (encode host coalesced overrides).names m)) := by
  have hnames : (Mapping.names (Mapping.merge coalesced overrides)).length ≤ 2 ^ 63 :=
    (Mapping.length_names_le _).trans hcount
  rw [decode, decodeMappings_eq_readFrom, encode, encodeMappings, String.toList_ofList]
  exact readFrom_encodeFrom hnames hfits (Mapping.pairwise_merge coalesced overrides)
    bounded_start (fun m _ => Nat.zero_le m.line) 0

theorem decode_encode_eq_map (host : Host) (hfits : ∀ m ∈ coalesced ++ overrides, m.Fits)
    (hcount : coalesced.length + overrides.length ≤ 2 ^ 63) :
    (encode host coalesced overrides).decode =
      .ok ((Mapping.merge coalesced overrides).map fun m =>
        decodedOf m (nameIndex (encode host coalesced overrides).names m)) :=
  decode_encode_of_merge_fits host
    (fun m hm => hfits m (List.mem_append.2 (Mapping.mem_of_mem_merge hm)))
    ((Mapping.length_merge_le _ _).trans hcount)

/-- Every merged mapping is read as what it says. -/
theorem forall₂_readsAs (host : Host) (coalesced overrides : List Mapping) :
    List.Forall₂ (ReadsAs (encode host coalesced overrides).names)
      (Mapping.merge coalesced overrides)
      ((Mapping.merge coalesced overrides).map fun m =>
        decodedOf m (nameIndex (encode host coalesced overrides).names m)) := by
  rw [List.forall₂_map_right_iff, List.forall₂_same]
  intro m hm
  exact readsAs_decodedOf fun name hname => Mapping.mem_names_iff.2 ⟨m, hm, hname⟩

/-- **A position map decodes to the merged mappings.**  The mappings may come in any order, with any
names and origins and several at one place, as long as their positions are signed words and there are
no more of them than a list in memory can hold.  The table of names holds every name of the merged
mappings once, in order of first appearance. -/
theorem decode_encode (host : Host) (coalesced overrides : List Mapping)
    (hfits : ∀ m ∈ coalesced ++ overrides, m.Fits)
    (hcount : coalesced.length + overrides.length ≤ 2 ^ 63) :
    ∃ decoded, (encode host coalesced overrides).decode = .ok decoded ∧
      List.Forall₂ (ReadsAs (encode host coalesced overrides).names)
        (Mapping.merge coalesced overrides) decoded ∧
      (encode host coalesced overrides).names.Nodup ∧
      (∀ name, name ∈ (encode host coalesced overrides).names ↔
        ∃ m ∈ Mapping.merge coalesced overrides, m.target.name = some name) ∧
      (encode host coalesced overrides).names.Pairwise fun a b =>
        (Mapping.mentions (Mapping.merge coalesced overrides)).idxOf a <
          (Mapping.mentions (Mapping.merge coalesced overrides)).idxOf b :=
  ⟨_, decode_encode_eq_map host hfits hcount, forall₂_readsAs host coalesced overrides,
    Mapping.nodup_names _, fun _ => Mapping.mem_names_iff, Mapping.pairwise_names _⟩

/-- Mappings out of order, two of them at one place, with columns at the end of the range. -/
theorem decode_encode_out_of_order :
    ∃ coalesced overrides : List Mapping,
      coalesced =
        [⟨2, 5, ⟨0, 1, some "x"⟩, .coalesced⟩, ⟨0, 2 ^ 63 - 1, ⟨3, 0, none⟩, .coalesced⟩] ∧
      overrides =
        [⟨2, 5, ⟨1, 0, some "y"⟩, .override⟩, ⟨2, 4, ⟨0, 2 ^ 63 - 1, some "x"⟩, .override⟩] ∧
      (∀ m ∈ coalesced ++ overrides, m.Fits) ∧
      coalesced.length + overrides.length ≤ 2 ^ 63 ∧
      ∃ decoded, (encode ⟨"host", "text"⟩ coalesced overrides).decode = .ok decoded ∧
        List.Forall₂ (ReadsAs (encode ⟨"host", "text"⟩ coalesced overrides).names)
          (Mapping.merge coalesced overrides) decoded := by
  refine ⟨_, _, rfl, rfl, ?_⟩
  have hfits : ∀ m ∈ ([⟨2, 5, ⟨0, 1, some "x"⟩, .coalesced⟩,
      ⟨0, 2 ^ 63 - 1, ⟨3, 0, none⟩, .coalesced⟩] : List Mapping)
        ++ [⟨2, 5, ⟨1, 0, some "y"⟩, .override⟩, ⟨2, 4, ⟨0, 2 ^ 63 - 1, some "x"⟩, .override⟩],
      m.Fits := by
    intro m hm
    simp only [List.cons_append, List.nil_append, List.mem_cons, List.not_mem_nil, or_false] at hm
    rcases hm with rfl | rfl | rfl | rfl <;> exact ⟨by decide, by decide, by decide⟩
  obtain ⟨decoded, hdecode, hread, _⟩ := decode_encode ⟨"host", "text"⟩ _ _ hfits (by decide)
  exact ⟨hfits, by decide, decoded, hdecode, hread⟩

end Whole

end PositionMap

end Inlay
