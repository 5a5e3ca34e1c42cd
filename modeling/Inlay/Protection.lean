/-
**Protected ranges.**

Spans of generated code in which the compiler's own segments are not trusted.  They are kept per line,
sorted, and never overlap or touch.

Main definitions:

* `Inlay.ProtectedRange` — a span of columns on a generated line;
* `Inlay.Protection` — the spans by line;
* `Inlay.Protection.ofRanges` — the spans of ranges in any order, joined where they meet;
* `Inlay.Protection.containsStrictly` — whether a column lies inside a span, its ends excluded.
-/

set_option autoImplicit false

namespace Inlay

/-- Columns of a generated line; the two ends may come in either order. -/
structure ProtectedRange where
  line : Nat
  start : Nat
  stop : Nat
  deriving DecidableEq, Repr

/-- A span of columns, from its start up to its end. -/
structure Span where
  start : Nat
  stop : Nat
  deriving DecidableEq, Repr

namespace Span

/-- By start, then by end. -/
def notAfter (a b : Span) : Bool :=
  a.start < b.start || (a.start == b.start && a.stop ≤ b.stop)

/-- Joins spans that overlap or touch; `current` starts no later than the list, which is sorted. -/
def joinFrom (current : Span) : List Span → List Span
  | [] => [current]
  | next :: rest =>
    if next.start ≤ current.stop then
      joinFrom { start := current.start, stop := max current.stop next.stop } rest
    else current :: joinFrom next rest

/-- Joins the spans of a sorted list that overlap or touch. -/
def join : List Span → List Span
  | [] => []
  | first :: rest => joinFrom first rest

end Span

/-- The span of a range, its ends in order. -/
def ProtectedRange.span (range : ProtectedRange) : Span where
  start := min range.start range.stop
  stop := max range.start range.stop

/-- The protected spans of one generated line. -/
structure ProtectedLine where
  line : Nat
  spans : List Span
  deriving DecidableEq, Repr

/-- Protected spans by generated line, lines in increasing order. -/
structure Protection where
  lines : List ProtectedLine
  deriving DecidableEq, Repr

namespace Protection

/-- Nothing is protected. -/
def empty : Protection where
  lines := []

/-- The joined spans that ranges leave on a line. -/
def spansOn (ranges : List ProtectedRange) (line : Nat) : List Span :=
  Span.join (((ranges.filter (·.line == line)).map ProtectedRange.span).mergeSort Span.notAfter)

/-- The lines of ranges, each once, in increasing order. -/
def linesOf (ranges : List ProtectedRange) : List Nat :=
  ((ranges.map (·.line)).mergeSort fun a b => decide (a ≤ b)).eraseReps

/-- The protection that ranges give. -/
def ofRanges (ranges : List ProtectedRange) : Protection where
  lines := (linesOf ranges).map fun line => { line, spans := spansOn ranges line }

/-- The spans of a line. -/
def spans (protection : Protection) (line : Nat) : List Span :=
  match protection.lines.find? (·.line == line) with
  | some found => found.spans
  | none => []

/-- Whether a column lies inside a span of a line; the ends of spans are not protected. -/
def containsStrictly (protection : Protection) (line column : Nat) : Bool :=
  (protection.spans line).any fun span => span.start < column && column < span.stop

/-- The spans as ranges, by line and then by column. -/
def ranges (protection : Protection) : List ProtectedRange :=
  protection.lines.flatMap fun entry =>
    entry.spans.map fun span => { line := entry.line, start := span.start, stop := span.stop }

/-- The number of spans. -/
def size (protection : Protection) : Nat :=
  protection.lines.foldr (fun line size => line.spans.length + size) 0

/-- Whether no line is protected. -/
def isEmpty (protection : Protection) : Bool :=
  protection.lines.isEmpty

end Protection

end Inlay
