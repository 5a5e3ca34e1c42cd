/-
**Reading mappings from left to right.**

`Inlay/Map/Decoded.lean` cuts a text of mappings into lines and a line into segments before it reads
them.  For statements about texts that grow at their end another form is better: a reader that stands
somewhere in the text, on some line and behind some segments, and reads on.  This module defines that
form in terms of the given one and proves its three moves: over a semicolon, over a comma and over a
segment.

Main definitions:

* `Inlay.PositionMap.readFrom` — what is read from a place in the text on.

Main results:

* `Inlay.PositionMap.decodeMappings_eq_readFrom` — reading from the start is reading the whole text;
* `Inlay.PositionMap.readFrom_semicolon`, `Inlay.PositionMap.readFrom_comma`,
  `Inlay.PositionMap.readFrom_segment` — **the moves of the reader**.
-/
import Inlay.Map.Decoded
import Inlay.Proofs.Split

set_option autoImplicit false

namespace Inlay.PositionMap

open Text

/-- What is read from a text that stands on line `line` behind `index` segments, which reached the
generated column `column` and the running values `running`. -/
def readFrom (line index : Nat) (column : Int) (running : Running) (cs : List Char) :
    Except MappingError (List DecodedMapping) :=
  match readLine line index column running (split ',' (firstPiece ';' cs)) with
  | .error error => .error error
  | .ok (found, running) =>
    (readLines (line + 1) running (split ';' cs).tail).map (found ++ ·)

/-- Reading from the start is reading the whole text. -/
theorem decodeMappings_eq_readFrom (mappings : String) :
    decodeMappings mappings = readFrom 0 0 0 {} mappings.toList := by
  rw [decodeMappings, split_eq_cons, readLines]
  rfl

theorem map_nil_append {ε : Type} (result : Except ε (List DecodedMapping)) :
    result.map ([] ++ ·) = result := by
  cases result <;> rfl

@[simp] theorem readLine_nil_cons (line index : Nat) (column : Int) (running : Running)
    (rest : List (List Char)) :
    readLine line index column running ([] :: rest) =
      readLine line (index + 1) column running rest := by
  simp [readLine]

@[simp] theorem readLine_nil (line index : Nat) (column : Int) (running : Running) :
    readLine line index column running [] = .ok ([], running) := rfl

theorem readLine_cons {segment : List Char} (h : segment ≠ []) (line index : Nat) (column : Int)
    (running : Running) (rest : List (List Char)) :
    readLine line index column running (segment :: rest) =
      match readSegment line column running segment with
      | .error fault => .error { line, segment := index, fault }
      | .ok (found, column, running) =>
        (readLine line (index + 1) column running rest).map fun (more, running) =>
          (found :: more, running) := by
  rw [readLine]
  exact if_neg (by simpa using h)

theorem firstPiece_comma_cons (cs : List Char) :
    firstPiece ';' (',' :: cs) = ',' :: firstPiece ';' cs := by
  rw [firstPiece, split, if_neg (by decide), split_eq_cons ';' cs]
  rfl

theorem firstPiece_semicolon_cons (cs : List Char) : firstPiece ';' (';' :: cs) = [] := by
  simp [firstPiece]

/-- The end of the text. -/
theorem readFrom_nil (line index : Nat) (column : Int) (running : Running) :
    readFrom line index column running [] = .ok [] := by
  simp [readFrom, split, firstPiece, readLines, Except.map]

/-- Over a semicolon: the next line starts behind no segment and at column zero. -/
theorem readFrom_semicolon (line index : Nat) (column : Int) (running : Running) (cs : List Char) :
    readFrom line index column running (';' :: cs) = readFrom (line + 1) 0 0 running cs := by
  rw [readFrom, firstPiece_semicolon_cons, split_separator_cons, List.tail_cons]
  simp only [split, readLine_nil_cons, readLine_nil]
  rw [map_nil_append, split_eq_cons ';' cs, readLines]
  rfl

theorem readFrom_replicate_semicolon {count : Nat} (h : 0 < count) (line index : Nat)
    (column : Int) (running : Running) (cs : List Char) :
    readFrom line index column running (List.replicate count ';' ++ cs) =
      readFrom (line + count) 0 0 running cs := by
  induction count generalizing line index column with
  | zero => exact absurd h (Nat.lt_irrefl 0)
  | succ count ih =>
      rw [List.replicate_succ, List.cons_append, readFrom_semicolon]
      rcases Nat.eq_zero_or_pos count with rfl | hpos
      · rfl
      · rw [ih hpos, Nat.add_assoc, Nat.add_comm 1]

/-- Over a comma: one segment more lies behind. -/
theorem readFrom_comma (line index : Nat) (column : Int) (running : Running) (cs : List Char) :
    readFrom line index column running (',' :: cs) = readFrom line (index + 1) column running cs := by
  have htail : (split ';' (',' :: cs)).tail = (split ';' cs).tail := by
    simpa using congrArg List.tail (@split_append_of_notMem ';' [','] (by decide) cs)
  rw [readFrom, readFrom, firstPiece_comma_cons, htail, split_separator_cons, readLine_nil_cons]

/-- Whether a segment can end before a text: the text is at its end or goes on with a separator. -/
def EndsSegment : List Char → Prop
  | [] => True
  | c :: _ => c = ',' ∨ c = ';'

/-- Whether a text is a segment: not empty and without separators. -/
structure IsSegment (segment : List Char) : Prop where
  ne_nil : segment ≠ []
  comma : ',' ∉ segment
  semicolon : ';' ∉ segment

/-- Over a segment: its mapping comes first, and reading goes on with the values it reached. -/
theorem readFrom_segment {segment rest : List Char} (hsegment : IsSegment segment)
    (hrest : EndsSegment rest) (line index : Nat) (column : Int) (running : Running) :
    readFrom line index column running (segment ++ rest) =
      match readSegment line column running segment with
      | .error fault => .error { line, segment := index, fault }
      | .ok (found, column, running) =>
        (readFrom line index column running rest).map (found :: ·) := by
  have hsplit := split_append_of_notMem hsegment.semicolon rest
  have hfirst : firstPiece ';' (segment ++ rest) = segment ++ firstPiece ';' rest := by
    rw [firstPiece, hsplit, List.headD_cons]
  rw [readFrom, hfirst, hsplit, List.tail_cons]
  cases rest with
  | nil =>
      simp only [firstPiece, split, List.headD_cons, List.append_nil, List.tail_cons,
        split_of_notMem hsegment.comma, readLine_cons hsegment.ne_nil, readLine_nil, readFrom_nil]
      cases readSegment line column running segment <;> rfl
  | cons c cs =>
      rcases hrest with rfl | rfl
      · -- the segment is followed by others of its line
        rw [firstPiece_comma_cons, split_append_cons hsegment.comma, readLine_cons hsegment.ne_nil]
        cases readSegment line column running segment with
        | error fault => rfl
        | ok found =>
            simp only [readFrom, firstPiece_comma_cons, split_separator_cons, readLine_nil_cons]
            cases readLine line (index + 1) found.2.1 found.2.2 (split ',' (firstPiece ';' cs)) with
            | error error => rfl
            | ok more =>
                simp only [Except.map]
                cases readLines (line + 1) more.2 (split ';' (',' :: cs)).tail <;> rfl
      · -- the segment is the last one of its line
        rw [firstPiece_semicolon_cons, List.append_nil, split_of_notMem hsegment.comma,
          readLine_cons hsegment.ne_nil]
        cases readSegment line column running segment with
        | error fault => rfl
        | ok found =>
            simp only [readFrom, firstPiece_semicolon_cons, split, readLine_nil_cons, readLine_nil,
              Except.map, if_true, List.tail_cons]
            cases readLines (line + 1) found.2.2 (split ';' cs) <;> rfl

end Inlay.PositionMap
