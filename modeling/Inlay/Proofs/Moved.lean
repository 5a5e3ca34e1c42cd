/-
**Snippets that move with their host.**

Lines that are put in front of a host move everything in it down.  If a snippet's placement moves as far,
its mappings should stay what they are, but for the host line.  This compares two runs, so it is shown
step by step that nothing on the way depends on where a line stands: a row of the moved host is the row
that it was, and comparing, clamping, separators and looking for names only see rows.

Main definitions:

* `Inlay.Segment.LineFits` — the host line of a segment is a word;
* `Inlay.Host.MovesTo` — another host has the rows of a host some lines further down;
* `Inlay.Mapping.down` — a mapping whose host line is moved down.

Main results:

* `Inlay.Host.movesTo_of_startsRow` — a host behind whole lines is a moved host;
* `Inlay.Walk.coalesce_moved` — the walk over the segments moves with its host;
* `Inlay.overridesOf_moved` — so do the mappings of anchors;
* `Inlay.coalesce_overrides_behind` — **both passes give the same mappings behind whole lines, with every
  host line moved down**.
-/
import Inlay.Map.Override
import Inlay.Proofs.Host

set_option autoImplicit false

namespace Inlay

/-! ### Moving down -/

/-- A snippet that sits some lines further down. -/
def Placement.down (lines : Nat) (placement : Placement) : Placement :=
  { placement with startLine := placement.startLine + lines }

/-- A place some lines further down. -/
def HostPosition.down (lines : Nat) (place : HostPosition) : HostPosition :=
  { place with line := place.line + lines }

/-- A target some lines further down. -/
def Target.down (lines : Nat) (target : Target) : Target :=
  { target with line := target.line + lines }

/-- A mapping to a target some lines further down. -/
def Mapping.down (lines : Nat) (mapping : Mapping) : Mapping :=
  { mapping with target := mapping.target.down lines }

theorem Placement.hostLine_down {placement : Placement} {lines line : Nat}
    (h : placement.startLine + lines + line < Word.size) :
    (placement.down lines).hostLine line = placement.hostLine line + lines := by
  have hdown : (placement.down lines).hostLine line = placement.startLine + lines + line :=
    hostLine_of_lt h
  have hplain : placement.hostLine line = placement.startLine + line := hostLine_of_lt (by omega)
  omega

/-- Whether the snippet line of a segment comes to lie on a host line that is a word, in a snippet that
starts on a given line. -/
def Segment.LineFits (start : Nat) : Segment → Prop
  | .mapped _ _ snippetLine _ _ => start + snippetLine < Word.size
  | _ => True

/-! ### Rows -/

namespace Host

/-- Another host has the rows of a host, `lines` further down. -/
def MovesTo (host : Host) (lines : Nat) (other : Host) : Prop :=
  ∀ line, other.rows[line + lines]? = host.rows[line]?

/-- A host behind whole lines is a moved host. -/
theorem movesTo_of_startsRow {before : String} (hbefore : Text.StartsRow before.toList)
    (host : Host) :
    host.MovesTo (before.toList.count '\n') { host with text := before ++ host.text } := by
  intro line
  have hlast : Text.lastPiece '\n' before.toList = [] := by
    rcases hbefore with hnil | ⟨body, hbody⟩
    · rw [hnil]
      rfl
    · rw [hbody, Text.lastPiece_concat]
  have hlength : (Text.split '\n' before.toList).dropLast.length = before.toList.count '\n' := by
    rw [List.length_dropLast, Text.length_split]
    rfl
  -- the rows in front end where the text in front does, so the first row of the host stays whole
  have hrows : rows { host with text := before ++ host.text } =
      (Text.split '\n' before.toList).dropLast ++ host.rows := by
    rw [rows, rows, String.toList_append, Text.split_append, hlast, List.nil_append,
      ← Text.split_eq_cons]
  rw [hrows, List.getElem?_append_right (by omega), hlength, Nat.add_sub_cancel]

namespace MovesTo

variable {host other : Host} {lines : Nat}

theorem lineText (h : host.MovesTo lines other) (line : Nat) :
    other.lineText (line + lines) = host.lineText line := by
  rw [lineText_eq, lineText_eq, h]

theorem lineLength (h : host.MovesTo lines other) (line : Nat) :
    other.lineLength (line + lines) = host.lineLength line := by
  rw [Host.lineLength, h.lineText, Host.lineLength]

theorem charAt (h : host.MovesTo lines other) (line column : Nat) :
    other.charAt (line + lines) column = host.charAt line column := by
  rw [Host.charAt, h.lineText, Host.charAt]

theorem isSpaceAt (h : host.MovesTo lines other) (line column : Nat) :
    other.isSpaceAt (line + lines) column = host.isSpaceAt line column := by
  rw [Host.isSpaceAt, h.charAt, Host.isSpaceAt]

/-- A snippet position moves with its host. -/
theorem toHost (h : host.MovesTo lines other) {placement : Placement} {line : Nat}
    (hline : placement.startLine + lines + line < Word.size) (column : Nat) (adjust : Bool) :
    (placement.down lines).toHost other line column adjust =
      (placement.toHost host line column adjust).map (HostPosition.down lines) := by
  simp only [Placement.toHost, Placement.hostLine_down hline, h.lineLength, Placement.ontoSeparator,
    h.charAt, Option.map_map]
  rfl

/-- Which of two targets is better does not depend on where their host stands. -/
theorem prefers (h : host.MovesTo lines other) (current candidate : Target) :
    (current.down lines).prefers other (candidate.down lines) = current.prefers host candidate := by
  have hsame : candidate.line + lines = current.line + lines ↔ candidate.line = current.line := by
    omega
  have hbefore : candidate.line + lines < current.line + lines ↔ candidate.line < current.line := by
    omega
  simp only [Target.prefers, Target.down, h.isSpaceAt, hbefore]
  split
  · rfl
  · exact if_congr hsame rfl rfl

end MovesTo

end Host

/-! ### The walk over the segments -/

namespace Walk

variable {other : Host} {lines : Nat}

/-- The walk over the same segments, with its host and its snippet moved. -/
def moved (walk : Walk) (lines : Nat) (other : Host) : Walk :=
  { walk with host := other, placement := walk.placement.down lines }

@[simp] theorem moved_map (walk : Walk) (lines : Nat) (other : Host) :
    (walk.moved lines other).map = walk.map := rfl

@[simp] theorem moved_analysis (walk : Walk) (lines : Nat) (other : Host) :
    (walk.moved lines other).analysis = walk.analysis := rfl

theorem candidate?_moved {walk : Walk} (h : walk.host.MovesTo lines other) {snippetLine : Nat}
    (hfits : walk.placement.startLine + lines + snippetLine < Word.size)
    (line column snippetColumn : Nat) (name : Option String) :
    (walk.moved lines other).candidate? line column snippetLine snippetColumn name =
      (walk.candidate? line column snippetLine snippetColumn name).map (Mapping.down lines) := by
  simp only [candidate?, moved, h.toHost hfits, Option.map_map]
  rfl

theorem rangeEnd_moved {walk : Walk} (h : walk.host.MovesTo lines other) (pending : Mapping)
    (column delta : Nat) :
    (walk.moved lines other).rangeEnd (pending.down lines) column delta =
      (walk.rangeEnd pending column delta).down lines := by
  simp only [rangeEnd, moved, Mapping.down, Target.down, h.lineLength]

theorem hold_moved {walk : Walk} (h : walk.host.MovesTo lines other) (pending : Option Mapping)
    (candidate : Mapping) :
    (walk.moved lines other).hold (pending.map (Mapping.down lines)) (candidate.down lines) =
      ((walk.hold pending candidate).1.map (Mapping.down lines),
        (walk.hold pending candidate).2.down lines) := by
  cases pending with
  | none => rfl
  | some current =>
      have hprefers := h.prefers current.target candidate.target
      simp only [hold, Option.map_some, moved, Mapping.down, hprefers]
      split
      · split <;> rfl
      · rfl

/-- The walk over a line moves with its host. -/
theorem line_moved {walk : Walk} (h : walk.host.MovesTo lines other) (number column : Nat)
    (pending : Option Mapping) (segments : List Segment)
    (hfits : ∀ segment ∈ segments, segment.LineFits (walk.placement.startLine + lines)) :
    ((walk.moved lines other).line number column (pending.map (Mapping.down lines)) segments).1 =
      ((walk.line number column pending segments).1).map (Mapping.down lines) := by
  induction segments generalizing column pending with
  | nil => cases pending <;> rfl
  | cons segment rest ih =>
      have hsegment := hfits segment List.mem_cons_self
      replace ih := fun column pending =>
        ih column pending fun segment hmem => hfits segment (List.mem_cons_of_mem _ hmem)
      rw [line, line]
      cases reached? column segment with
      | none => cases pending <;> rfl
      | some next =>
          dsimp only
          cases segment with
          | malformed delta? fault => exact ih next pending
          | advance delta =>
              cases pending with
              | none => exact ih next none
              | some current =>
                  cases hquiet : walk.analysis.protection.containsStrictly number next ||
                      decide (delta ≤ 1) with
                  | true =>
                      simp only [Option.map_some, moved_analysis, hquiet, if_true]
                      exact ih next (some current)
                  | false =>
                      have hrest := ih next none
                      rw [Option.map_none] at hrest
                      simp only [Option.map_some, moved_analysis, hquiet, Bool.false_eq_true,
                        if_false, rangeEnd_moved h, hrest, List.map_cons]
          | mapped delta source snippetLine snippetColumn nameIndex =>
              cases hquiet : walk.analysis.protection.containsStrictly number next ||
                  (nameIndex.bind walk.map.name).any walk.analysis.isSynthetic with
              | true =>
                  simp only [moved_analysis, moved_map, hquiet, if_true]
                  exact ih next pending
              | false =>
                  simp only [moved_analysis, moved_map, hquiet, Bool.false_eq_true, if_false,
                    candidate?_moved h hsegment]
                  cases walk.candidate? number next snippetLine snippetColumn
                      (nameIndex.bind walk.map.name) with
                  | none => exact ih next pending
                  | some candidate =>
                      have hrest := ih next (some (walk.hold pending candidate).2)
                      rw [Option.map_some] at hrest
                      simp only [Option.map_some, hold_moved h, hrest, List.map_append,
                        Option.toList_map]

theorem mem_of_mem_kept {walk : Walk} {number : Nat} {segments : List Segment} {segment : Segment}
    (h : segment ∈ walk.kept number segments) : segment ∈ segments := by
  unfold kept at h
  split at h
  · exact List.mem_of_mem_take h
  · exact h

theorem linesFrom_moved {walk : Walk} (h : walk.host.MovesTo lines other) (first : Nat)
    (rows : List (List Segment))
    (hfits : ∀ row ∈ rows, ∀ segment ∈ row, segment.LineFits (walk.placement.startLine + lines)) :
    ((walk.moved lines other).linesFrom first rows).1 =
      ((walk.linesFrom first rows).1).map (Mapping.down lines) := by
  induction rows generalizing first with
  | nil => rfl
  | cons segments rest ih =>
      have hline := line_moved h first 0 none (walk.kept first segments) fun segment hmem =>
        hfits segments List.mem_cons_self segment (mem_of_mem_kept hmem)
      have hrest := ih (first + 1) fun row hrow => hfits row (List.mem_cons_of_mem _ hrow)
      rw [Option.map_none] at hline
      simp only [linesFrom, hrest, List.map_append, ← hline]
      rfl

/-- The walk over the segments moves with its host. -/
theorem coalesce_moved {walk : Walk} (h : walk.host.MovesTo lines other)
    (hfits : ∀ row ∈ walk.map.lines, ∀ segment ∈ row,
      segment.LineFits (walk.placement.startLine + lines)) :
    (walk.moved lines other).coalesce.1 = (walk.coalesce.1).map (Mapping.down lines) :=
  linesFrom_moved h 0 walk.map.lines hfits

end Walk

/-! ### Anchors -/

section Anchors

variable {map : NativeMap} {host other : Host} {lines : Nat}

/-- The first segment of a line is a segment of a line of the map. -/
theorem NativeMap.exists_mem_of_firstSegment {line : Nat} {segment : Segment}
    (h : map.firstSegment line = some segment) : ∃ row ∈ map.lines, segment ∈ row := by
  have hmem : segment ∈ map.segments line := List.mem_of_head? h
  rw [NativeMap.segments] at hmem
  cases hrow : map.lines[line]? with
  | none => simp [hrow] at hmem
  | some row => exact ⟨row, List.mem_of_getElem? hrow, by simpa [hrow] using hmem⟩

/-- The name of an anchor is found in a moved host exactly if it was found before, at a place that moved
as far. -/
theorem Anchor.resolve_moved (h : host.MovesTo lines other) (anchor : Anchor) {map : NativeMap}
    {placement : Placement} (hfits : ∀ row ∈ map.lines, ∀ segment ∈ row,
      segment.LineFits (placement.startLine + lines)) :
    (anchor.resolve map other (placement.down lines)).toOption =
      (anchor.resolve map host placement).toOption.map (HostPosition.down lines) := by
  unfold resolve
  split
  · next delta source snippetLine snippetColumn nameIndex hsegment =>
    obtain ⟨row, hrow, hmem⟩ := NativeMap.exists_mem_of_firstSegment hsegment
    have hline : placement.startLine + lines + snippetLine < Word.size := hfits row hrow _ hmem
    dsimp only
    rw [Placement.hostLine_down hline, h.lineText]
    split
    · rfl
    · split <;> rfl
  · rfl

/-- What the first of some anchors adds. -/
theorem overridesOf_cons (analysis : Analysis) (map : NativeMap) (host : Host)
    (placement : Placement) (anchor : Anchor) (rest : List Anchor) :
    (overridesOf analysis map host placement (anchor :: rest)).1 =
      (if analysis.isSynthetic anchor.name then []
        else ((anchor.resolve map host placement).toOption.map anchor.mappings).getD []) ++
        (overridesOf analysis map host placement rest).1 := by
  rw [overridesOf]
  dsimp only
  split
  · rfl
  · cases anchor.resolve map host placement <;> rfl

/-- The mappings of anchors move with their host. -/
theorem overridesOf_moved (h : host.MovesTo lines other) (analysis : Analysis) {map : NativeMap}
    {placement : Placement} (hfits : ∀ row ∈ map.lines, ∀ segment ∈ row,
      segment.LineFits (placement.startLine + lines)) (anchors : List Anchor) :
    (overridesOf analysis map other (placement.down lines) anchors).1 =
      ((overridesOf analysis map host placement anchors).1).map (Mapping.down lines) := by
  induction anchors with
  | nil => rfl
  | cons anchor rest ih =>
      rw [overridesOf_cons, overridesOf_cons, ih, anchor.resolve_moved h hfits, List.map_append]
      congr 1
      split
      · rfl
      · cases anchor.resolve map host placement <;> rfl

end Anchors

/-! ### Both passes -/

/-- **Position maps move with their snippet.**  Behind a text that is empty or ends in a newline, with the
snippet moved down by as many lines as that text has newlines, both passes give the mappings that they gave
before, in the same order.  Only the host lines of the mappings have moved down.  The host lines that the
segments of the map point at are words, also after the move. -/
theorem coalesce_overrides_behind (map : NativeMap) (analysis : Analysis) (host : Host)
    (placement : Placement) (adjust : Bool) (before : String)
    (hbefore : before.toList = [] ∨ ∃ body, before.toList = body ++ ['\n'])
    (hfits : ∀ row ∈ map.lines, ∀ segment ∈ row,
      segment.LineFits (placement.startLine + before.toList.count '\n')) :
    let lines := before.toList.count '\n'
    let behind : Host := { host with text := before ++ host.text }
    let moved : Placement := { placement with startLine := placement.startLine + lines }
    let down : Mapping → Mapping := fun m =>
      { m with target := { m.target with line := m.target.line + lines } }
    (Walk.mk map analysis behind moved adjust).coalesce.1 =
        ((Walk.mk map analysis host placement adjust).coalesce.1).map down ∧
      (overrides analysis map behind moved).1 =
        ((overrides analysis map host placement).1).map down := by
  intro lines behind moved down
  have hmoves : host.MovesTo lines behind := Host.movesTo_of_startsRow hbefore host
  have hwalk : (Walk.mk map analysis host placement adjust).host.MovesTo lines behind := hmoves
  exact ⟨Walk.coalesce_moved hwalk hfits, overridesOf_moved hmoves analysis hfits analysis.anchors⟩

/-- A segment on the blank behind a comma, and an anchor, behind two lines. -/
theorem coalesce_overrides_behind_two_lines :
    ∃ (map : NativeMap) (analysis : Analysis) (before : String),
      map = .ofLines [[[0, 0, 0, 2]]] none ∧
      analysis = { anchors := [⟨"y", 0, 4, 5⟩], status := .completed } ∧ before = "<p>\n\n" ∧
      (before.toList = [] ∨ ∃ body, before.toList = body ++ ['\n']) ∧
      (∀ row ∈ map.lines, ∀ segment ∈ row, segment.LineFits (0 + before.toList.count '\n')) ∧
      (Walk.mk map analysis ⟨"App.svelte", before ++ "x, y"⟩ ⟨2, 0, 0⟩ true).coalesce.1 =
        [⟨0, 0, ⟨2, 1, none⟩, .coalesced⟩] ∧
      (overrides analysis map ⟨"App.svelte", before ++ "x, y"⟩ ⟨2, 0, 0⟩).1 =
        [⟨0, 4, ⟨2, 3, some "y"⟩, .override⟩, ⟨0, 5, ⟨2, 4, some "y"⟩, .override⟩] := by
  have hbefore : "<p>\n\n".toList = [] ∨ ∃ body, "<p>\n\n".toList = body ++ ['\n'] :=
    Or.inr ⟨"<p>\n".toList, by decide⟩
  have hfits : ∀ row ∈ (NativeMap.ofLines [[[0, 0, 0, 2]]] none).lines, ∀ segment ∈ row,
      segment.LineFits (0 + "<p>\n\n".toList.count '\n') := by
    have hlines : (NativeMap.ofLines [[[0, 0, 0, 2]]] none).lines = [[.mapped 0 0 0 2 none]] := by
      decide +kernel
    simp [hlines, Segment.LineFits, Word.size]
  obtain ⟨hcoalesce, hoverrides⟩ := coalesce_overrides_behind (.ofLines [[[0, 0, 0, 2]]] none)
    { anchors := [⟨"y", 0, 4, 5⟩], status := .completed } ⟨"App.svelte", "x, y"⟩ ⟨0, 0, 0⟩ true
    "<p>\n\n" hbefore hfits
  exact ⟨_, _, _, rfl, rfl, rfl, hbefore, hfits, hcoalesce.trans (by decide +kernel),
    hoverrides.trans (by decide +kernel)⟩

end Inlay
