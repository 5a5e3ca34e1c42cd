/-
**Sets of code points as sorted runs.**

A character property is stored as the runs of code points that have it.  A run is an arithmetic
progression: alternating upper and lower case letters are one run of step two each, so a table
stays short.  Runs are sorted by their first code point, and a search stops at the first run that
starts beyond the code point looked for.

Main definitions:

* `Inlay.Unicode.Runs` — a sorted list of runs `(first, last, step)`;
* `Inlay.Unicode.Runs.contains` — membership of a code point.
-/

set_option autoImplicit false

namespace Inlay.Unicode

/-- Runs `(first, last, step)` of code points, sorted by `first`. -/
abbrev Runs := List (Nat × Nat × Nat)

/-- Whether the code point `n` lies on one of the runs. -/
def Runs.contains : Runs → Nat → Bool
  | [], _ => false
  | (first, last, step) :: rest, n =>
    if n < first then false
    else (n ≤ last && (n - first) % step == 0) || Runs.contains rest n

end Inlay.Unicode
