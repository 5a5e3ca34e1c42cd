/-
**Dedented snippets in their host.**

A snippet is compiled without the line break that follows its opening tag and without the indentation that
its lines share.  Its placement has to undo both.  This module follows one line of a snippet back to its
row in the host: dedenting takes the same number of columns from every line that is not blank, each of
them one UTF-16 unit wide, and only the first line has something else of the host in front of it.

Main results:

* `Inlay.split_flatMap_stripIndent` — dedenting works line by line;
* `Inlay.commonIndent_le` — no line that is not blank is indented less than the common indentation;
* `Inlay.exists_eq_append_stripIndent` — what is taken from such a line is that many columns wide;
* `Inlay.placementOf_eq` — a placement in terms of the text before the snippet;
* `Inlay.Snippet.charAt_toHost` — **a snippet position and its host position hold the same character**.
-/
import Inlay.Proofs.Blocks
import Inlay.Proofs.Host

set_option autoImplicit false

namespace Inlay

namespace Text

/-! ### Pieces with their newlines -/

theorem pieces_append_cons {piece : List Char} (h : '\n' ∉ piece) (rest : List Char) :
    pieces (piece ++ '\n' :: rest) = (piece ++ ['\n']) :: pieces rest := by
  induction piece with
  | nil => simp [pieces]
  | cons c piece ih =>
      have hc : c ≠ '\n' := fun hc => h (by simp [hc])
      rw [List.cons_append, pieces, if_neg hc, ih fun hmem => h (List.mem_cons_of_mem _ hmem)]
      rfl

theorem pieces_of_notMem {piece : List Char} (h : '\n' ∉ piece) (hne : piece ≠ []) :
    pieces piece = [piece] := by
  induction piece with
  | nil => exact absurd rfl hne
  | cons c piece ih =>
      have hc : c ≠ '\n' := fun hc => h (by simp [hc])
      rw [pieces, if_neg hc]
      cases piece with
      | nil => rfl
      | cons d piece =>
          rw [ih (fun hmem => h (List.mem_cons_of_mem _ hmem)) (List.cons_ne_nil _ _)]

/-- A line end is a newline, perhaps with a carriage return before it. -/
theorem stripLineEnd_concat (piece : List Char) :
    stripLineEnd (piece ++ ['\n']) = piece ∨
      ∃ body, piece = body ++ ['\r'] ∧ stripLineEnd (piece ++ ['\n']) = body := by
  unfold stripLineEnd
  rw [List.reverse_append, List.reverse_singleton, List.singleton_append]
  split
  · next rest heq =>
      have hpiece : piece = rest.reverse ++ ['\r'] := by
        rw [← List.reverse_reverse piece, (List.cons.inj heq).2, List.reverse_cons]
      exact Or.inr ⟨rest.reverse, hpiece, rfl⟩
  · next rest _ heq =>
      rw [← (List.cons.inj heq).2, List.reverse_reverse]
      exact Or.inl rfl
  · next hno => exact absurd rfl (hno piece.reverse)

theorem stripLineEnd_of_notMem {piece : List Char} (h : '\n' ∉ piece) :
    stripLineEnd piece = piece := by
  unfold stripLineEnd
  split
  · next heq => exact absurd (List.mem_reverse.1 (heq ▸ List.mem_cons_self ..)) h
  · next heq => exact absurd (List.mem_reverse.1 (heq ▸ List.mem_cons_self ..)) h
  · rfl

end Text

open Text

/-! ### Indentation -/

theorem takeWhile_isIndent_concat {c : Char} (hc : isIndent c = false) (cs : List Char) :
    (cs ++ [c]).takeWhile isIndent = cs.takeWhile isIndent := by
  induction cs with
  | nil => simp [hc]
  | cons d cs ih =>
      rw [List.cons_append, List.takeWhile_cons, List.takeWhile_cons, ih]

theorem stripIndent_concat_newline (indent : Nat) (line : List Char) :
    stripIndent indent (line ++ ['\n']) = stripIndent indent line ++ ['\n'] := by
  have hnewline : isIndent '\n' = false := by decide
  have hlead : ((line ++ ['\n']).take indent).takeWhile isIndent =
      (line.take indent).takeWhile isIndent := by
    rw [List.take_append]
    cases indent - line.length with
    | zero => simp
    | succ n => rw [List.take_succ_cons, List.take_nil, takeWhile_isIndent_concat hnewline]
  have hle : ((line.take indent).takeWhile isIndent).length ≤ line.length :=
    ((List.takeWhile_sublist _).trans (List.take_sublist _ _)).length_le
  rw [stripIndent, hlead, List.drop_append_of_le_length hle, stripIndent]

theorem notMem_stripIndent {indent : Nat} {line : List Char} (h : '\n' ∉ line) :
    '\n' ∉ stripIndent indent line :=
  fun hmem => h (List.mem_of_mem_drop hmem)

/-- Dedenting works line by line. -/
theorem split_flatMap_stripIndent (indent : Nat) (cs : List Char) :
    split '\n' ((pieces cs).flatMap (stripIndent indent)) =
      (split '\n' cs).map (stripIndent indent) := by
  induction cs using separated_induction '\n' with
  | last piece hpiece =>
      rw [split_of_notMem hpiece]
      by_cases hne : piece = []
      · -- an empty last line has no piece of its own
        subst hne
        simp [pieces, split, stripIndent]
      · rw [pieces_of_notMem hpiece hne, List.flatMap_singleton,
          split_of_notMem (notMem_stripIndent hpiece)]
        rfl
  | step piece rest hpiece ih =>
      rw [pieces_append_cons hpiece, List.flatMap_cons, stripIndent_concat_newline,
        List.append_assoc, List.singleton_append, split_append_cons (notMem_stripIndent hpiece), ih,
        split_append_cons hpiece, List.map_cons]

/-- A line that is not blank, between newlines, is among the lines with the same indentation. -/
theorem exists_mem_lines {cs line : List Char} (hline : line ∈ split '\n' cs)
    (hink : line.all Unicode.isSpace = false) :
    ∃ found ∈ lines cs, found.all Unicode.isSpace = false ∧
      found.takeWhile isIndent = line.takeWhile isIndent := by
  induction cs using separated_induction '\n' with
  | last piece hpiece =>
      rw [split_of_notMem hpiece, List.mem_singleton] at hline
      subst hline
      have hne : line ≠ [] := by
        rintro rfl
        simp at hink
      refine ⟨line, ?_, hink, rfl⟩
      rw [lines, pieces_of_notMem hpiece hne, List.map_singleton, stripLineEnd_of_notMem hpiece]
      exact List.mem_singleton_self line
  | step piece rest hpiece ih =>
      rw [split_append_cons hpiece] at hline
      rw [lines, pieces_append_cons hpiece, List.map_cons]
      rcases List.mem_cons.1 hline with rfl | hline
      · refine ⟨stripLineEnd (line ++ ['\n']), List.mem_cons_self .., ?_⟩
        rcases stripLineEnd_concat line with heq | ⟨body, rfl, heq⟩
        · rw [heq]
          exact ⟨hink, rfl⟩
        · -- the carriage return is white space and no indentation
          have hreturn : Unicode.isSpace '\r' = true := by decide
          rw [heq, takeWhile_isIndent_concat (by decide)]
          exact ⟨by simpa [hreturn] using hink, rfl⟩
      · obtain ⟨found, hfound, hspec⟩ := ih hline
        exact ⟨found, List.mem_cons_of_mem _ hfound, hspec⟩

/-- No line that is not blank is indented less than the common indentation. -/
theorem commonIndent_le {cs line : List Char} (hline : line ∈ split '\n' cs)
    (hink : line.all Unicode.isSpace = false) :
    commonIndent cs ≤ (line.takeWhile isIndent).length := by
  obtain ⟨found, hfound, hfoundInk, hindent⟩ := exists_mem_lines hline hink
  have hmem : (line.takeWhile isIndent).length ∈
      ((lines cs).filter fun line => !line.all Unicode.isSpace).map fun line =>
        (line.takeWhile isIndent).length := by
    rw [← hindent]
    exact List.mem_map_of_mem (List.mem_filter.2 ⟨hfound, by simp [hfoundInk]⟩)
  simp only [commonIndent]
  cases hmin : (((lines cs).filter fun line => !line.all Unicode.isSpace).map fun line =>
      (line.takeWhile isIndent).length).min? with
  | none => exact Nat.zero_le _
  | some least => exact (List.min?_eq_some_iff.1 hmin).2 _ hmem

theorem utf16Length_of_isIndent {cs : List Char} (h : ∀ c ∈ cs, isIndent c = true) :
    utf16Length cs = cs.length := by
  induction cs with
  | nil => rfl
  | cons c cs ih =>
      have hunit : units16 c = 1 := by
        have hc := h c (List.mem_cons_self ..)
        unfold isIndent at hc
        rcases Bool.or_eq_true_iff.1 hc with hc | hc <;> rw [eq_of_beq hc] <;> rfl
      rw [utf16Length_cons, hunit, ih fun d hd => h d (List.mem_cons_of_mem _ hd), List.length_cons]
      omega

/-- What is taken from a line that is indented far enough is as many columns wide as asked for. -/
theorem exists_eq_append_stripIndent {indent : Nat} {line : List Char}
    (h : indent ≤ (line.takeWhile isIndent).length) :
    ∃ lead, line = lead ++ stripIndent indent line ∧ utf16Length lead = indent := by
  have hlead : line.take indent = (line.takeWhile isIndent).take indent := by
    have hparts : line.takeWhile isIndent ++ line.dropWhile isIndent = line :=
      List.takeWhile_append_dropWhile
    conv_lhs => rw [← hparts]
    exact List.take_append_of_le_length h
  have hall : ∀ c ∈ line.take indent, isIndent c = true := by
    intro c hc
    rw [hlead] at hc
    exact List.mem_takeWhile_imp (List.mem_of_mem_take hc)
  have hlen : (line.take indent).length = indent := by
    rw [hlead, List.length_take, Nat.min_eq_left h]
  refine ⟨line.take indent, ?_, by rw [utf16Length_of_isIndent hall, hlen]⟩
  rw [stripIndent, List.takeWhile_eq_self_iff.2 hall, hlen, List.take_append_drop]

/-! ### Placements -/

/-- The line break at the start of a text, if there is one. -/
def firstBreak : List Char → List Char
  | '\r' :: '\n' :: _ => ['\r', '\n']
  | '\n' :: _ => ['\n']
  | _ => []

theorem firstBreak_append_dropFirstBreak (cs : List Char) :
    firstBreak cs ++ dropFirstBreak cs = cs := by
  unfold firstBreak dropFirstBreak
  split <;> simp_all

/-- The line break at the start of a text is empty or ends in a newline; its characters are bytes. -/
theorem firstBreak_spec (cs : List Char) :
    (firstBreak cs = [] ∨ ∃ body, firstBreak cs = body ++ ['\n']) ∧
      utf8Length (firstBreak cs) = (firstBreak cs).length := by
  unfold firstBreak
  split
  · exact ⟨Or.inr ⟨['\r'], rfl⟩, rfl⟩
  · exact ⟨Or.inr ⟨[], rfl⟩, rfl⟩
  · exact ⟨Or.inl rfl, rfl⟩

/-- A placement in terms of the text before the snippet: the newlines before it, and the width of what
stands on its first row before it. -/
theorem placementOf_eq {text : String} {front content back : List Char}
    (h : text.toList = front ++ (content ++ back)) :
    placementOf text (utf8Length front) content =
      { startLine := (front ++ firstBreak content).count '\n'
        removedIndent := commonIndent (dropFirstBreak content)
        firstLineColumn := utf16Length (lastPiece '\n' (front ++ firstBreak content)) } := by
  have hparts := firstBreak_append_dropFirstBreak content
  have hskipped : content.length - (dropFirstBreak content).length = (firstBreak content).length := by
    have hlength := congrArg List.length hparts
    rw [List.length_append] at hlength
    omega
  obtain ⟨hbreak, hbytes⟩ := firstBreak_spec content
  have htext : text.toList = (front ++ firstBreak content) ++ (dropFirstBreak content ++ back) := by
    rw [h]
    conv_lhs => rw [← hparts]
    simp
  have hoffset : utf8Length front + (firstBreak content).length =
      utf8Length (front ++ firstBreak content) := by
    rw [utf8Length_append, hbytes]
  have hfirst : (if (firstBreak content).length = 0 then
      utf16Length (lastPiece '\n' (front ++ firstBreak content)) else 0) =
      utf16Length (lastPiece '\n' (front ++ firstBreak content)) := by
    -- behind a break nothing stands on the row yet
    rcases hbreak with hnil | ⟨body, hbody⟩
    · simp [hnil]
    · rw [hbody, ← List.append_assoc, lastPiece_concat]
      simp
  simp only [placementOf, hskipped, hoffset, LineIndex.locate_ofText htext, Option.getD_some, hfirst]

namespace Snippet

/-- The row of the host on which a line of a snippet stands: something in front of the first line, the
indentation, the line, and something behind it.  The sums do not wrap, since they are places in the
host. -/
theorem StandsIn.exists_row {snippet : Snippet} {host : Host} {front content back line : List Char}
    {number : Nat} (h : snippet.StandsIn host.text front content back)
    (hsize : utf8Length host.text.toList < Word.size)
    (hline : (split '\n' snippet.code.toList)[number]? = some line)
    (hink : line.all Unicode.isSpace = false) :
    ∃ lead tail, host.rows[snippet.placement.hostLine number]? = some (lead ++ (line ++ tail)) ∧
      ∀ column ≤ utf16Length line,
        snippet.placement.hostColumn number column = utf16Length lead + column := by
  rw [h.code_eq, String.toList_ofList, dedent, split_flatMap_stripIndent, List.getElem?_map,
    Option.map_eq_some_iff] at hline
  -- the line as it was before its indentation was taken away
  obtain ⟨full, hfull, rfl⟩ := hline
  have hfullInk : full.all Unicode.isSpace = false := by
    rw [List.all_eq_false] at hink ⊢
    obtain ⟨c, hc, hspace⟩ := hink
    exact ⟨c, List.mem_of_mem_drop hc, hspace⟩
  obtain ⟨indent, hindent, hwidth⟩ := exists_eq_append_stripIndent
    (commonIndent_le (List.mem_of_getElem? hfull) hfullInk)
  obtain ⟨tail, hrow⟩ := getElem?_split_append hfull (front ++ firstBreak content) back
  have htext : host.text.toList =
      (front ++ firstBreak content) ++ (dropFirstBreak content ++ back) := by
    rw [h.text_eq]
    conv_lhs => rw [← firstBreak_append_dropFirstBreak content]
    simp
  generalize hlead : (if number = 0 then lastPiece '\n' (front ++ firstBreak content) else []) = lead
    at hrow
  generalize stripIndent (commonIndent (dropFirstBreak content)) full = rest at *
  rw [hindent] at hrow
  have hplace : host.rows[(front ++ firstBreak content).count '\n' + number]? =
      some ((lead ++ indent) ++ (rest ++ tail)) := by
    rw [Host.rows, htext, hrow]
    simp
  have hwithin : ∀ column ≤ utf16Length rest,
      host.Contains ((front ++ firstBreak content).count '\n' + number)
        (utf16Length (lead ++ indent) + column) := by
    intro column hcolumn
    refine Host.contains_of_le (by rw [Host.lineLength_eq, hplace, Option.map_some]) ?_
    rw [utf16Length_append _ (rest ++ tail), utf16Length_append rest]
    omega
  rw [h.placement_eq, placementOf_eq h.text_eq]
  refine ⟨lead ++ indent, tail, ?_, ?_⟩
  · rw [Placement.hostLine_of_lt ((hwithin 0 (Nat.zero_le _)).le.1.trans_lt hsize), hplace]
  · intro column hcolumn
    have hsum := (hwithin column hcolumn).le.2.trans_lt hsize
    have hfirst : (if number = 0 then utf16Length (lastPiece '\n' (front ++ firstBreak content)) else 0)
        = utf16Length lead := by
      rw [← hlead, apply_ite utf16Length, utf16Length_nil]
    rw [utf16Length_append, hwidth] at hsum ⊢
    rw [Placement.hostColumn_of_lt] <;> simp only [hfirst] <;> omega

/-- **A snippet position and its host position hold the same character.**  This is so on every line of
the dedented text that is not blank, for every column that the line has, in every host whose size is a
word. -/
theorem charAt_toHost (host : Host) (hsize : host.text.utf8ByteSize < Word.size) (language : String)
    (snippet : Snippet) (hsnippet : snippet ∈ ofText host.text language) (number column : Nat)
    (line : List Char)
    (hline : (split '\n' snippet.code.toList)[number]? = some line)
    (hink : ∃ c ∈ line, Unicode.isSpace c = false) (hcolumn : column < utf16Length line) :
    ∃ place c, snippet.placement.toHost host number column false = some place ∧
      host.charAt place.line place.column = some c ∧ charAtUnit line column = some c := by
  obtain ⟨front, content, back, hstands⟩ := exists_of_mem_ofText hsnippet
  have hall : line.all Unicode.isSpace = false := by
    rw [List.all_eq_false]
    obtain ⟨c, hc, hspace⟩ := hink
    exact ⟨c, hc, by simp [hspace]⟩
  rw [utf8ByteSize_eq] at hsize
  obtain ⟨lead, tail, hrow, hcolumns⟩ := hstands.exists_row hsize hline hall
  have hplain := hcolumns column (Nat.le_of_lt hcolumn)
  obtain ⟨c, hc⟩ := exists_charAtUnit hcolumn
  have hmin : min (utf16Length lead + column) (utf16Length (lead ++ (line ++ tail))) =
      utf16Length lead + column := by
    rw [utf16Length_append, utf16Length_append]
    omega
  refine ⟨{ line := snippet.placement.hostLine number, column := utf16Length lead + column }, c,
    ?_, ?_, hc⟩
  · simp only [Placement.toHost, Host.lineLength_eq, hrow, hplain, Option.map_some,
      Bool.false_eq_true, if_false, hmin]
  · rw [Host.charAt_eq, hrow, Option.bind_some, charAtUnit_append_right,
      charAtUnit_append_left hcolumn, hc]

/-- The second half of a surrogate pair, on an indented line behind a carriage return. -/
theorem charAt_toHost_surrogate :
    ∃ host : Host, host.text = "<script lang='civet'>\r\n\t a\n\t 😀b</script>" ∧
      host.text.utf8ByteSize < Word.size ∧
      ∃ snippet ∈ ofText host.text "civet",
        (split '\n' snippet.code.toList)[1]? = some ['😀', 'b'] ∧
        (∃ c ∈ ['😀', 'b'], Unicode.isSpace c = false) ∧
        1 < utf16Length ['😀', 'b'] ∧
        ∃ place c, snippet.placement.toHost host 1 1 false = some place ∧
          host.charAt place.line place.column = some c ∧
          charAtUnit ['😀', 'b'] 1 = some c := by
  have hink : ∃ c ∈ ['😀', 'b'], Unicode.isSpace c = false := ⟨'b', by simp, by decide⟩
  have hsize : "<script lang='civet'>\r\n\t a\n\t 😀b</script>".utf8ByteSize < Word.size := by
    decide +kernel
  refine ⟨⟨"App.svelte", _⟩, rfl, hsize, ⟨.instanceScript, " lang='civet'", ⟨0, 43⟩, ⟨21, 34⟩,
    "a\n😀b", ⟨1, 2, 0⟩⟩, ?_, ?_, hink, ?_, ?_⟩
  · decide +kernel
  · decide +kernel
  · decide
  · exact charAt_toHost _ hsize "civet" _ (by decide +kernel) 1 1 _ (by decide +kernel) hink (by decide)

end Snippet

end Inlay
