/-
**The fields of the segments that were read.**

A text of mappings that is read without a fault gives one mapping for each segment that is not empty.  The
source and the name of a mapping are indices that run on over the whole text: each is the sum of the fields
in its place, over the segments that have it.  A negative column or line is a fault, but a negative index is
not; it leaves the mapping without a source or a name, as if the field were not there.

Main definitions:

* `Inlay.PositionMap.Moves` — **what one segment does** to the running indices, and what it gives;
* `Inlay.PositionMap.Traces` — what a list of segments does;
* `Inlay.PositionMap.segmentTexts`, `Inlay.PositionMap.runningSum` — the segments of a text, and the sum of
  a field over segments.

Main results:

* `Inlay.PositionMap.exists_moves_of_readSegment` — a segment that is read does what the relation says;
* `Inlay.PositionMap.readLine_cons_eq_ok`, `Inlay.PositionMap.readLines_cons_eq_ok` — reading goes on behind a
  segment, and behind a line;
* `Inlay.PositionMap.exists_traces_of_decodeMappings` — so does a whole text;
* `Inlay.PositionMap.sources_names_iff` — **a mapping is without a source or a name exactly if its segment has
  no field for it or the running index is negative**;
* `Inlay.PositionMap.no_source_no_name_negative` — texts in which an index is negative.
-/
import Inlay.Proofs.Decoding
import Mathlib.Algebra.Ring.Int.Defs
import Mathlib.Algebra.Ring.Nat
import Mathlib.Data.List.Forall2

set_option autoImplicit false

namespace Inlay.PositionMap

open Text

/-! ### One segment -/

theorem bind_eq_ok {ε α β : Type} {result : Except ε α} {next : α → Except ε β} {b : β} :
    (result >>= next) = .ok b ↔ ∃ a, result = .ok a ∧ next a = .ok b := by
  cases result with
  | error fault => simp [bind, Except.bind]
  | ok a => simp [bind, Except.bind]

theorem map_eq_ok {ε α β : Type} {result : Except ε α} {f : α → β} {b : β} :
    result.map f = .ok b ↔ ∃ a, result = .ok a ∧ f a = b := by
  cases result <;> simp [Except.map]

theorem mapError_eq_ok {ε δ α : Type} {result : Except ε α} {f : ε → δ} {a : α} :
    result.mapError f = .ok a ↔ result = .ok a := by
  cases result <;> simp [Except.mapError]

theorem advance_eq_ok {value difference sum : Int} {fault : MappingFault}
    (h : advance value difference fault = .ok sum) : sum = value + difference ∧ Word.Fits sum := by
  unfold advance Word.addSigned? at h
  by_cases hfits : Word.Fits (value + difference)
  · rw [if_pos hfits] at h
    obtain rfl := Except.ok.inj h
    exact ⟨rfl, hfits⟩
  · rw [if_neg hfits] at h
    cases h

theorem eq_toNat_of_position {n : Int} {found : Nat} {fault : MappingFault}
    (h : position n fault = .ok found) : found = n.toNat := by
  unfold position index? at h
  by_cases hpos : 0 ≤ n
  · rw [if_pos hpos] at h
    exact (Except.ok.inj h).symm
  · rw [if_neg hpos] at h
    cases h

theorem index?_eq_none_iff {n : Int} : index? n = none ↔ n < 0 := by
  unfold index?
  split <;> simp <;> omega

/-- What a segment with the given fields does to the running indices, and the mapping that it gives.  The
second field moves the index of the source and the fifth that of the name. -/
structure Moves (running : Running) (values : List Int) (decoded : DecodedMapping) (after : Running) :
    Prop where
  column_le : decoded.column ≤ 2 ^ 63 - 1
  source_after : after.source = running.source + (values[1]?).getD 0
  name_after : after.name = running.name + (values[4]?).getD 0
  source_eq : decoded.source = if values.length = 1 then none else index? after.source
  name_eq : decoded.name = if values.length < 5 then none else index? after.name

/-- The name field of a segment, if it has one. -/
theorem readName_eq_ok {running after : Running} {field : Option Int} {name : Option Nat}
    (h : readName running field = .ok (name, after)) :
    after.source = running.source ∧ after.name = running.name + field.getD 0 ∧
      name = field.bind fun _ => index? after.name := by
  cases field with
  | none =>
      obtain ⟨rfl, rfl⟩ := Prod.mk.inj (Except.ok.inj h)
      simp
  | some difference =>
      obtain ⟨sum, hsum, h⟩ := bind_eq_ok.1 h
      obtain ⟨rfl, rfl⟩ := Prod.mk.inj (Except.ok.inj h)
      exact ⟨rfl, (advance_eq_ok hsum).1, rfl⟩

/-- The host side of a segment of four or five fields. -/
theorem readTarget_eq_ok {place decoded : DecodedMapping} {running after : Running}
    {source line column : Int} {field : Option Int}
    (h : readTarget place running source line column field = .ok (decoded, after)) :
    decoded.column = place.column ∧ after.source = running.source + source ∧
      decoded.source = index? after.source ∧ after.name = running.name + field.getD 0 ∧
      decoded.name = field.bind fun _ => index? after.name := by
  unfold readTarget at h
  simp only [bind_eq_ok] at h
  obtain ⟨sum, hsum, _, _, _, _, _, _, _, _, ⟨name, last⟩, hname, h⟩ := h
  obtain ⟨rfl, rfl⟩ := Prod.mk.inj (Except.ok.inj h)
  obtain ⟨hsource, hindex, hfound⟩ := readName_eq_ok hname
  exact ⟨rfl, hsource.trans (advance_eq_ok hsum).1, congrArg index? hsource.symm, hindex, hfound⟩

/-- **A segment that is read does what its fields say.** -/
theorem exists_moves_of_readSegment {line : Nat} {column next : Int} {running after : Running}
    {segment : List Char} {decoded : DecodedMapping}
    (h : readSegment line column running segment = .ok (decoded, next, after)) :
    ∃ values, Vlq.decode segment = .ok values ∧ Moves running values decoded after := by
  unfold readSegment at h
  simp only [bind_eq_ok, mapError_eq_ok] at h
  obtain ⟨values, hvalues, sum, hsum, found, hfound, h⟩ := h
  have hle : found ≤ 2 ^ 63 - 1 := by
    obtain ⟨_, _, hhigh⟩ := advance_eq_ok hsum
    rw [eq_toNat_of_position hfound]
    omega
  refine ⟨values, hvalues, ?_⟩
  split at h
  case h_1 =>
    obtain ⟨rfl, rfl, rfl⟩ := Prod.mk.inj (Except.ok.inj h)
    exact ⟨hle, by simp, by simp, rfl, rfl⟩
  case h_4 => cases h
  all_goals
    -- four fields or five
    obtain ⟨⟨decoded', after'⟩, htarget, h⟩ := bind_eq_ok.1 h
    obtain ⟨rfl, rfl, rfl⟩ := Prod.mk.inj (Except.ok.inj h)
    obtain ⟨hcolumn, hsource, hindex, hname, hfound⟩ := readTarget_eq_ok htarget
    exact ⟨hcolumn ▸ hle, hsource, hname, hindex, hfound⟩

/-! ### Many segments -/

/-- A line is read if its first segment is and the others are. -/
theorem readLine_cons_eq_ok {line index : Nat} {column : Int} {running after : Running}
    {segment : List Char} {rest : List (List Char)} {found : List DecodedMapping}
    (hne : segment ≠ []) :
    readLine line index column running (segment :: rest) = .ok (found, after) ↔
      ∃ decoded next middle more, readSegment line column running segment = .ok (decoded, next, middle) ∧
        readLine line (index + 1) next middle rest = .ok (more, after) ∧ found = decoded :: more := by
  rw [readLine_cons hne]
  cases readSegment line column running segment with
  | error fault => simp
  | ok result =>
      obtain ⟨decoded, next, middle⟩ := result
      simp only [map_eq_ok, Prod.exists, Prod.mk.injEq, Except.ok.injEq]
      grind

/-- Lines are read if the first one is and the others are. -/
theorem readLines_cons_eq_ok {line : Nat} {running : Running} {group : List Char}
    {rest : List (List Char)} {found : List DecodedMapping} :
    readLines line running (group :: rest) = .ok found ↔
      ∃ first middle more, readLine line 0 0 running (split ',' group) = .ok (first, middle) ∧
        readLines (line + 1) middle rest = .ok more ∧ found = first ++ more := by
  rw [readLines]
  cases readLine line 0 0 running (split ',' group) with
  | error error => simp
  | ok result =>
      obtain ⟨first, middle⟩ := result
      simp only [map_eq_ok, Prod.mk.injEq, Except.ok.injEq]
      grind

/-- What a list of segments that were read does: the fields of each, the mapping that each gives, and the
running values behind them all. -/
inductive Traces : Running → List (List Char) → List (List Int) → List DecodedMapping → Running → Prop
  | nil {running : Running} : Traces running [] [] [] running
  | cons {running middle after : Running} {segment : List Char} {values : List Int}
      {decoded : DecodedMapping} {segments : List (List Char)} {read : List (List Int)}
      {found : List DecodedMapping} (hvalues : Vlq.decode segment = .ok values)
      (hmoves : Moves running values decoded middle) (hrest : Traces middle segments read found after) :
      Traces running (segment :: segments) (values :: read) (decoded :: found) after

section Traces

variable {running middle after : Running} {segments later : List (List Char)}
  {read readLater : List (List Int)} {found foundLater : List DecodedMapping}

theorem Traces.append (h : Traces running segments read found middle)
    (hlater : Traces middle later readLater foundLater after) :
    Traces running (segments ++ later) (read ++ readLater) (found ++ foundLater) after := by
  induction h with
  | nil => exact hlater
  | cons hvalues hmoves _ ih => exact Traces.cons hvalues hmoves (ih hlater)

theorem Traces.forall₂_decode (h : Traces running segments read found after) :
    List.Forall₂ (fun segment values => Vlq.decode segment = .ok values) segments read := by
  induction h with
  | nil => exact List.Forall₂.nil
  | cons hvalues _ _ ih => exact List.Forall₂.cons hvalues ih

theorem Traces.length_eq (h : Traces running segments read found after) :
    found.length = read.length := by
  induction h with
  | nil => rfl
  | cons _ _ _ ih => rw [List.length_cons, List.length_cons, ih]

/-- Every column that is read is a signed word. -/
theorem Traces.column_le (h : Traces running segments read found after) :
    ∀ decoded ∈ found, decoded.column ≤ 2 ^ 63 - 1 := by
  induction h with
  | nil => simp
  | cons _ hmoves _ ih => exact List.forall_mem_cons.2 ⟨hmoves.column_le, ih⟩

end Traces

/-- The segments of a line that are not empty. -/
def lineSegments (group : List Char) : List (List Char) :=
  (split ',' group).filter (· ≠ [])

/-- The segments of a text that are not empty, in order. -/
def segmentTexts (mappings : String) : List (List Char) :=
  (split ';' mappings.toList).flatMap lineSegments

theorem exists_traces_of_readLine {line index : Nat} {column : Int} {running after : Running}
    {segments : List (List Char)} {found : List DecodedMapping}
    (h : readLine line index column running segments = .ok (found, after)) :
    ∃ read, Traces running (segments.filter (· ≠ [])) read found after := by
  induction segments generalizing index column running found with
  | nil =>
      obtain ⟨rfl, rfl⟩ := Prod.mk.inj (Except.ok.inj h)
      exact ⟨[], Traces.nil⟩
  | cons segment rest ih =>
      by_cases hempty : segment = []
      · subst hempty
        rw [readLine_nil_cons] at h
        exact ih h
      · obtain ⟨decoded, next, middle, more, hsegment, hmore, rfl⟩ := (readLine_cons_eq_ok hempty).1 h
        obtain ⟨values, hvalues, hmoves⟩ := exists_moves_of_readSegment hsegment
        obtain ⟨read, htraces⟩ := ih hmore
        rw [List.filter_cons_of_pos (by simpa using hempty)]
        exact ⟨values :: read, Traces.cons hvalues hmoves htraces⟩

theorem exists_traces_of_readLines {groups : List (List Char)} {line : Nat} {running : Running}
    {found : List DecodedMapping} (h : readLines line running groups = .ok found) :
    ∃ read after, Traces running (groups.flatMap lineSegments) read found after := by
  induction groups generalizing line running found with
  | nil =>
      obtain rfl := Except.ok.inj h
      exact ⟨[], running, Traces.nil⟩
  | cons group rest ih =>
      obtain ⟨first, middle, more, hline, hmore, rfl⟩ := readLines_cons_eq_ok.1 h
      obtain ⟨read, hfirst⟩ := exists_traces_of_readLine hline
      obtain ⟨readLater, after, hlater⟩ := ih hmore
      exact ⟨read ++ readLater, after, hfirst.append hlater⟩

/-- **A text that is read does what its segments do one after the other.** -/
theorem exists_traces_of_decodeMappings {mappings : String} {found : List DecodedMapping}
    (h : decodeMappings mappings = .ok found) :
    ∃ read after, Traces {} (segmentTexts mappings) read found after :=
  exists_traces_of_readLines h

/-! ### Running indices -/

/-- The sum of the field with the given index, over the segments that have it. -/
def runningSum (field : Nat) (read : List (List Int)) : Int :=
  (read.filterMap (·[field]?)).sum

theorem runningSum_cons (field : Nat) (values : List Int) (read : List (List Int)) :
    runningSum field (values :: read) = (values[field]?).getD 0 + runningSum field read := by
  cases h : values[field]? <;> simp [runningSum, h]

/-- A mapping is without a source or a name if its segment has no field for it, or if the index behind the
segment is negative. -/
theorem Moves.eq_none_iff {running after : Running} {values : List Int} {decoded : DecodedMapping}
    (h : Moves running values decoded after) :
    (decoded.source = none ↔ values.length = 1 ∨ after.source < 0) ∧
      (decoded.name = none ↔ values.length < 5 ∨ after.name < 0) := by
  rw [h.source_eq, h.name_eq, ← index?_eq_none_iff, ← index?_eq_none_iff]
  constructor
  · by_cases hone : values.length = 1 <;> simp [hone]
  · by_cases hfew : values.length < 5 <;> simp [hfew]

/-- The index behind a segment is the one in front of all of them and the sum of the fields since then. -/
theorem Traces.eq_none_iff {running after : Running} {segments : List (List Char)}
    {read : List (List Int)} {found : List DecodedMapping}
    (h : Traces running segments read found after) {k : Nat} {decoded : DecodedMapping}
    {values : List Int} (hdecoded : found[k]? = some decoded) (hvalues : read[k]? = some values) :
    (decoded.source = none ↔
      values.length = 1 ∨ running.source + runningSum 1 (read.take (k + 1)) < 0) ∧
    (decoded.name = none ↔
      values.length < 5 ∨ running.name + runningSum 4 (read.take (k + 1)) < 0) := by
  induction h generalizing k with
  | nil => cases hvalues
  | @cons running middle after _ first _ _ read _ _ hmoves _ ih =>
      -- what the first segment adds to an index goes over to the sum
      have hshift (front : List (List Int)) :
          running.source + runningSum 1 (first :: front) = middle.source + runningSum 1 front ∧
            running.name + runningSum 4 (first :: front) = middle.name + runningSum 4 front := by
        rw [runningSum_cons, runningSum_cons, hmoves.source_after, hmoves.name_after, Int.add_assoc,
          Int.add_assoc]
        exact ⟨rfl, rfl⟩
      rw [List.take_succ_cons, (hshift _).1, (hshift _).2]
      cases k with
      | zero =>
          obtain rfl := Option.some.inj hdecoded
          obtain rfl := Option.some.inj hvalues
          simpa [runningSum] using hmoves.eq_none_iff
      | succ k => exact ih hdecoded hvalues

/-- **A mapping is without a source or a name exactly if its segment has no field for it or the running index
is negative.**  A text that is read gives one mapping for each segment that is not empty.  The mapping is
without a source if the segment has a single field, and without a name if it has fewer than five; and, though
the fields are there, if the fields in their place sum up to less than zero. -/
theorem sources_names_iff {mappings : String} {found : List DecodedMapping}
    (h : decodeMappings mappings = .ok found) :
    ∃ read : List (List Int),
      List.Forall₂ (fun segment values => Vlq.decode segment = .ok values) (segmentTexts mappings) read ∧
      found.length = read.length ∧
      ∀ k decoded values, found[k]? = some decoded → read[k]? = some values →
        (decoded.source = none ↔ values.length = 1 ∨ runningSum 1 (read.take (k + 1)) < 0) ∧
        (decoded.name = none ↔ values.length < 5 ∨ runningSum 4 (read.take (k + 1)) < 0) := by
  obtain ⟨read, after, htraces⟩ := exists_traces_of_decodeMappings h
  refine ⟨read, htraces.forall₂_decode, htraces.length_eq, ?_⟩
  intro k decoded values hdecoded hvalues
  simpa only [Int.zero_add] using htraces.eq_none_iff hdecoded hvalues

/-- The source goes below zero and back again, across a line, and a single field stands in between. -/
theorem sources_names_iff_below_zero :
    decodeMappings "ADAA,C;,ACAAC" =
      .ok [⟨0, 0, none, 0, 0, none⟩, ⟨0, 1, none, 0, 0, none⟩, ⟨1, 0, some 0, 0, 0, some 1⟩] ∧
    ∃ read : List (List Int),
      List.Forall₂ (fun segment values => Vlq.decode segment = .ok values)
        (segmentTexts "ADAA,C;,ACAAC") read ∧
      read.length = 3 ∧
      ∀ values, read[2]? = some values →
        ¬ (values.length = 1 ∨ runningSum 1 (read.take 3) < 0) ∧
        ¬ (values.length < 5 ∨ runningSum 4 (read.take 3) < 0) := by
  have hdecode : decodeMappings "ADAA,C;,ACAAC" =
      .ok [⟨0, 0, none, 0, 0, none⟩, ⟨0, 1, none, 0, 0, none⟩, ⟨1, 0, some 0, 0, 0, some 1⟩] := by
    decide +kernel
  obtain ⟨read, hread, hlength, hiff⟩ := sources_names_iff hdecode
  refine ⟨hdecode, read, hread, hlength.symm, ?_⟩
  intro values hvalues
  obtain ⟨hsource, hname⟩ := hiff 2 _ values rfl hvalues
  rw [← hsource, ← hname]
  exact ⟨nofun, nofun⟩

/-- A source index of minus one makes a mapping without a source out of a segment of four fields, and a name
index of minus one a mapping without a name out of a segment of five. -/
theorem no_source_no_name_negative :
    Vlq.decode "ADAA".toList = .ok [0, -1, 0, 0] ∧
    decodeMappings "ADAA" = .ok [⟨0, 0, none, 0, 0, none⟩] ∧
    Vlq.decode "AAAAD".toList = .ok [0, 0, 0, 0, -1] ∧
    decodeMappings "AAAAD" = .ok [⟨0, 0, some 0, 0, 0, none⟩] := by
  decide +kernel

end Inlay.PositionMap
