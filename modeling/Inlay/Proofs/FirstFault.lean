/-
**The place of a fault is the first one.**

Reading a text of mappings goes on from left to right and stops at a fault.  So what comes later has no
influence: the front of a text that can be read can be read too, and gives the first of the mappings.  And if
a text cannot be read, then it can be read up to the segment that the error names, and no further.

Main definitions:

* `Inlay.PositionMap.textBefore` — the text up to a segment of a line.

Main results:

* `Inlay.PositionMap.readLine_front`, `Inlay.PositionMap.readLines_front` — the front of what can be read;
* `Inlay.PositionMap.exists_first_of_readLine`, `Inlay.PositionMap.exists_first_of_readLines` — the segment
  at which reading stops;
* `Inlay.PositionMap.decodeMappings_first_fault` — **the place of an error is the first segment that cannot
  be read**.
-/
import Inlay.Proofs.Fields

set_option autoImplicit false

namespace Inlay.PositionMap

open Text

theorem map_eq_error {ε α β : Type} {result : Except ε α} {f : α → β} {error : ε} :
    result.map f = .error error ↔ result = .error error := by
  cases result <;> simp [Except.map]

/-! ### Lines and lists of lines, one step -/

/-- Reading a line stops at its first segment, or at one of the others. -/
theorem readLine_cons_eq_error {line index : Nat} {column : Int} {running : Running}
    {segment : List Char} {rest : List (List Char)} {error : MappingError} (hne : segment ≠ []) :
    readLine line index column running (segment :: rest) = .error error ↔
      (∃ fault, readSegment line column running segment = .error fault ∧
        error = { line, segment := index, fault }) ∨
      ∃ decoded next middle, readSegment line column running segment = .ok (decoded, next, middle) ∧
        readLine line (index + 1) next middle rest = .error error := by
  rw [readLine_cons hne]
  cases readSegment line column running segment with
  | error fault => simp [eq_comm]
  | ok result =>
      obtain ⟨decoded, next, middle⟩ := result
      simp [map_eq_error]

/-- Reading lines stops on the first one, or on one of the others. -/
theorem readLines_cons_eq_error {line : Nat} {running : Running} {group : List Char}
    {rest : List (List Char)} {error : MappingError} :
    readLines line running (group :: rest) = .error error ↔
      readLine line 0 0 running (split ',' group) = .error error ∨
      ∃ first middle, readLine line 0 0 running (split ',' group) = .ok (first, middle) ∧
        readLines (line + 1) middle rest = .error error := by
  rw [readLines]
  cases readLine line 0 0 running (split ',' group) with
  | error other => simp
  | ok result =>
      obtain ⟨first, middle⟩ := result
      simp [map_eq_error]

/-- Segments that are joined with commas are read as they are. -/
theorem readLine_split_intercalate {segments : List (List Char)}
    (h : ∀ segment ∈ segments, ',' ∉ segment) (line index : Nat) (column : Int) (running : Running) :
    readLine line index column running (split ',' ([','].intercalate segments)) =
      readLine line index column running segments := by
  by_cases hnil : segments = []
  · -- nothing is joined to the empty text, which is one empty segment
    subst hnil
    exact readLine_nil_cons line index column running []
  · rw [split_intercalate h hnil]

/-! ### The front of what can be read -/

/-- The front of segments that can be read can be read. -/
theorem readLine_front {line index : Nat} {column : Int} {running after : Running}
    {front back : List (List Char)} {found : List DecodedMapping}
    (h : readLine line index column running (front ++ back) = .ok (found, after)) :
    ∃ early middle, readLine line index column running front = .ok (early, middle) ∧
      early <+: found := by
  induction front generalizing index column running found with
  | nil => exact ⟨[], running, rfl, List.nil_prefix⟩
  | cons segment front ih =>
      rw [List.cons_append] at h
      by_cases hempty : segment = []
      · subst hempty
        rw [readLine_nil_cons] at h ⊢
        exact ih h
      · obtain ⟨decoded, next, middle, more, hsegment, hmore, rfl⟩ := (readLine_cons_eq_ok hempty).1 h
        obtain ⟨early, last, hearly, hprefix⟩ := ih hmore
        exact ⟨decoded :: early, last,
          (readLine_cons_eq_ok hempty).2 ⟨decoded, next, middle, early, hsegment, hearly, rfl⟩,
          List.cons_prefix_cons.2 ⟨rfl, hprefix⟩⟩

/-- Lines that can be read can be read up to the front of any one of them. -/
theorem readLines_front {line : Nat} {running : Running} {front back : List (List Char)}
    {group piece : List Char} {found : List DecodedMapping}
    (h : readLines line running (front ++ group :: back) = .ok found)
    (hpiece : split ',' piece <+: split ',' group) :
    ∃ early, readLines line running (front ++ [piece]) = .ok early ∧ early <+: found := by
  induction front generalizing line running found with
  | nil =>
      rw [List.nil_append] at h ⊢
      obtain ⟨first, middle, more, hline, _, rfl⟩ := readLines_cons_eq_ok.1 h
      obtain ⟨rest, hrest⟩ := hpiece
      rw [← hrest] at hline
      obtain ⟨early, last, hearly, hprefix⟩ := readLine_front hline
      refine ⟨early, ?_, hprefix.trans (List.prefix_append _ _)⟩
      exact readLines_cons_eq_ok.2 ⟨early, last, [], hearly, rfl, (List.append_nil early).symm⟩
  | cons other front ih =>
      rw [List.cons_append] at h ⊢
      obtain ⟨first, middle, more, hline, hmore, rfl⟩ := readLines_cons_eq_ok.1 h
      obtain ⟨early, hearly, hprefix⟩ := ih hmore
      exact ⟨first ++ early, readLines_cons_eq_ok.2 ⟨first, middle, early, hline, hearly, rfl⟩,
        (List.prefix_append_right_inj _).2 hprefix⟩

/-- A text that can be read can be read up to any separator. -/
theorem decodeMappings_front {mappings : String} {found : List DecodedMapping} {front back : List Char}
    {separator : Char} (h : decodeMappings mappings = .ok found)
    (htext : mappings.toList = front ++ separator :: back)
    (hseparator : separator = ';' ∨ separator = ',') :
    ∃ early, decodeMappings (String.ofList front) = .ok early ∧ early <+: found := by
  have hfront : split ';' front = (split ';' front).dropLast ++ [lastPiece ';' front] := by
    have := split_append ';' front []
    simpa [split, firstPiece] using this
  rw [decodeMappings, htext] at h
  rw [decodeMappings, String.toList_ofList, hfront]
  rcases hseparator with rfl | rfl
  · rw [split_append_separator, hfront, List.append_assoc, List.singleton_append] at h
    exact readLines_front h List.prefix_rfl
  · -- the comma stands on the line that is cut, behind its segments so far
    rw [split_append, firstPiece_comma_cons] at h
    refine readLines_front h ?_
    rw [split_append_separator]
    exact List.prefix_append _ _

/-! ### The segment at which reading stops -/

/-- Reading segments stops at one of them: those before it can be read, and with it the error is there. -/
theorem exists_first_of_readLine {line index : Nat} {column : Int} {running : Running}
    {segments : List (List Char)} {error : MappingError}
    (h : readLine line index column running segments = .error error) :
    error.line = line ∧
      ∃ before segment after, segments = before ++ segment :: after ∧
        error.segment = index + before.length ∧
        (∃ early, readLine line index column running before = .ok early) ∧
        readLine line index column running (before ++ [segment]) = .error error := by
  induction segments generalizing index column running with
  | nil => cases h
  | cons segment rest ih =>
      by_cases hempty : segment = []
      · subst hempty
        rw [readLine_nil_cons] at h
        obtain ⟨hline, before, found, after, rfl, hindex, hearly, herror⟩ := ih h
        refine ⟨hline, [] :: before, found, after, rfl, ?_, ?_, ?_⟩
        · rw [hindex, List.length_cons]
          omega
        · simpa using hearly
        · rw [List.cons_append, readLine_nil_cons]
          exact herror
      · rcases (readLine_cons_eq_error hempty).1 h with
          ⟨fault, hsegment, rfl⟩ | ⟨decoded, next, middle, hsegment, hrest⟩
        · refine ⟨rfl, [], segment, rest, rfl, rfl, ⟨([], running), rfl⟩, ?_⟩
          exact (readLine_cons_eq_error hempty).2 (Or.inl ⟨fault, hsegment, rfl⟩)
        · obtain ⟨hline, before, found, after, rfl, hindex, ⟨⟨early, last⟩, hearly⟩, herror⟩ := ih hrest
          refine ⟨hline, segment :: before, found, after, rfl, ?_, ?_, ?_⟩
          · rw [hindex, List.length_cons]
            omega
          · exact ⟨(decoded :: early, last),
              (readLine_cons_eq_ok hempty).2 ⟨decoded, next, middle, early, hsegment, hearly, rfl⟩⟩
          · exact (readLine_cons_eq_error hempty).2 (Or.inr ⟨decoded, next, middle, hsegment, herror⟩)

/-- Reading lines stops at a segment of one of them: up to it the lines can be read, and with it the error is
there. -/
theorem exists_first_of_readLines {line : Nat} {running : Running} {groups : List (List Char)}
    {error : MappingError} (h : readLines line running groups = .error error) :
    ∃ front group back before segment after, groups = front ++ group :: back ∧
      error.line = line + front.length ∧ split ',' group = before ++ segment :: after ∧
      error.segment = before.length ∧
      (∃ early, readLines line running (front ++ [[','].intercalate before]) = .ok early) ∧
      readLines line running (front ++ [[','].intercalate (before ++ [segment])]) = .error error := by
  induction groups generalizing line running with
  | nil => cases h
  | cons group rest ih =>
      rcases readLines_cons_eq_error.1 h with hline | ⟨first, middle, hline, hrest⟩
      · obtain ⟨hnumber, before, segment, after, hsplit, hindex, ⟨⟨early, last⟩, hearly⟩, herror⟩ :=
          exists_first_of_readLine hline
        have hcommas : ∀ other ∈ before ++ [segment], ',' ∉ other := by
          intro other hother
          have hmem : other ∈ split ',' group := by
            rw [hsplit, List.append_cons]
            exact List.mem_append_left _ hother
          exact notMem_of_mem_split hmem
        refine ⟨[], group, rest, before, segment, after, rfl, hnumber, hsplit, by omega, ?_, ?_⟩
        · rw [← readLine_split_intercalate fun other hother =>
            hcommas other (List.mem_append_left _ hother)] at hearly
          exact ⟨early ++ [], readLines_cons_eq_ok.2 ⟨early, last, [], hearly, rfl, rfl⟩⟩
        · rw [← readLine_split_intercalate hcommas] at herror
          exact readLines_cons_eq_error.2 (Or.inl herror)
      · obtain ⟨front, found, back, before, segment, after, rfl, hnumber, hsplit, hindex,
          ⟨early, hearly⟩, herror⟩ := ih hrest
        refine ⟨group :: front, found, back, before, segment, after, rfl, ?_, hsplit, hindex, ?_, ?_⟩
        · rw [hnumber, List.length_cons]
          omega
        · exact ⟨first ++ early, readLines_cons_eq_ok.2 ⟨first, middle, early, hline, hearly, rfl⟩⟩
        · exact readLines_cons_eq_error.2 (Or.inr ⟨first, middle, hline, herror⟩)

/-! ### Whole texts -/

/-- The text up to a segment: the lines before its line, and of that line the segments before it. -/
def textBefore (mappings : String) (line segment : Nat) : String :=
  let groups := split ';' mappings.toList
  let segments := split ',' (groups[line]?.getD [])
  String.ofList ([';'].intercalate (groups.take line ++ [[','].intercalate (segments.take segment)]))

/-- Lines that are joined with semicolons are read as they are. -/
theorem decodeMappings_intercalate {groups : List (List Char)} (h : ∀ group ∈ groups, ';' ∉ group)
    (hne : groups ≠ []) :
    decodeMappings (String.ofList ([';'].intercalate groups)) = readLines 0 {} groups := by
  rw [decodeMappings, String.toList_ofList, split_intercalate h hne]

/-- The text up to a segment is read line by line. -/
theorem decodeMappings_textBefore {mappings : String} {front back : List (List Char)} {group : List Char}
    (h : split ';' mappings.toList = front ++ group :: back) (segment : Nat) :
    decodeMappings (textBefore mappings front.length segment) =
      readLines 0 {} (front ++ [[','].intercalate ((split ',' group).take segment)]) := by
  have hgroup : (split ';' mappings.toList)[front.length]?.getD [] = group := by simp [h]
  have hfront : (split ';' mappings.toList).take front.length = front := by simp [h]
  have hclean : ∀ other ∈ split ';' mappings.toList, ';' ∉ other := fun _ => notMem_of_mem_split
  have hcut : ';' ∉ [','].intercalate ((split ',' group).take segment) := by
    refine notMem_intercalate (by decide) ?_
    intro piece hpiece hmem
    exact hclean group (by simp [h]) (subset_of_mem_split (List.mem_of_mem_take hpiece) hmem)
  rw [textBefore, hgroup, hfront]
  refine decodeMappings_intercalate ?_ (by simp)
  intro other hother
  rcases List.mem_append.1 hother with hother | hother
  · exact hclean other (by simp [h, hother])
  · obtain rfl := List.mem_singleton.1 hother
    exact hcut

/-- **The place of an error is the first segment that cannot be read.**  If a text can be read, so can the
text before any of its separators, and it gives the first of the mappings.  If a text cannot be read, its
error names a segment of a line; the text up to that segment can be read, and with it there is the same
error. -/
theorem decodeMappings_first_fault (mappings : String) :
    (∀ found, decodeMappings mappings = .ok found →
      ∀ front separator back, mappings.toList = front ++ separator :: back →
        separator = ';' ∨ separator = ',' →
        ∃ early, decodeMappings (String.ofList front) = .ok early ∧ early <+: found) ∧
    ∀ error, decodeMappings mappings = .error error →
      ∃ group segment, (split ';' mappings.toList)[error.line]? = some group ∧
        (split ',' group)[error.segment]? = some segment ∧
        (∃ early, decodeMappings (textBefore mappings error.line error.segment) = .ok early) ∧
        decodeMappings (textBefore mappings error.line (error.segment + 1)) = .error error := by
  refine ⟨fun found h front separator back => decodeMappings_front h, ?_⟩
  intro error h
  obtain ⟨front, group, back, before, segment, after, hgroups, hline, hsegments, hindex,
    hearly, herror⟩ := exists_first_of_readLines h
  rw [Nat.zero_add] at hline
  have hbefore : (split ',' group).take before.length = before := by simp [hsegments]
  have hwith : (split ',' group).take (before.length + 1) = before ++ [segment] := by
    rw [hsegments, List.append_cons, List.take_left' (by simp)]
  refine ⟨group, segment, by simp [hline, hgroups], by simp [hindex, hsegments], ?_, ?_⟩
  · rw [hline, hindex, decodeMappings_textBefore hgroups, hbefore]
    exact hearly
  · rw [hline, hindex, decodeMappings_textBefore hgroups, hwith]
    exact herror

/-- The fault is on the second line, behind a segment that is empty and one that is not. -/
theorem decodeMappings_first_fault_second_line :
    let error : MappingError := { line := 1, segment := 2, fault := .negativeLine }
    decodeMappings "AACA;C,,AAFA,A;A" = .error error ∧
      (∃ found, decodeMappings "AACA;C," = .ok found ∧
        ∃ early, decodeMappings "AACA" = .ok early ∧ early <+: found) ∧
      decodeMappings "AACA;C,,AAFA" = .error error := by
  intro error
  have herror : decodeMappings "AACA;C,,AAFA,A;A" = .error error := by decide +kernel
  have hbefore : textBefore "AACA;C,,AAFA,A;A" 1 2 = "AACA;C," := by decide +kernel
  have hwith : textBefore "AACA;C,,AAFA,A;A" 1 3 = "AACA;C,,AAFA" := by decide +kernel
  obtain ⟨group, segment, _, _, ⟨found, hfound⟩, hsame⟩ :=
    (decodeMappings_first_fault "AACA;C,,AAFA,A;A").2 error herror
  rw [hbefore] at hfound
  rw [hwith] at hsame
  exact ⟨herror, ⟨found, hfound, (decodeMappings_first_fault "AACA;C,").1 found hfound "AACA".toList ';'
    "C,".toList (by decide) (Or.inl rfl)⟩, hsame⟩

end Inlay.PositionMap
