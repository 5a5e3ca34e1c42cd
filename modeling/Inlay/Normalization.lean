/-
**Normalisation.**

From the code of a compiled snippet and the compiler's own map to a position map over the host
document: analyse the code, walk the segments, map the anchors, encode what they give together.

Main definitions:

* `Inlay.Normalizer` — the rules and the syntax reader in use;
* `Inlay.Normalizer.passes` — the mappings of the two passes, with all reports;
* `Inlay.Normalizer.normalize` — the position map of a snippet, with all reports.
-/
import Inlay.Map.Override
import Inlay.Map.Position

set_option autoImplicit false

namespace Inlay

/-- What normalisation needs besides the snippet. -/
structure Normalizer where
  rules : Rules
  reader : SyntaxReader

namespace Normalizer

/-- The mappings of the two passes, with all reports. -/
def passes (normalizer : Normalizer) (code : String) (map : NativeMap) (host : Host)
    (placement : Placement) : List Mapping × List Mapping × List Diagnostic :=
  let (analysis, analysisReports) := analyze normalizer.rules normalizer.reader code
  let walk : Walk :=
    { map, analysis, host, placement, adjustSeparators := normalizer.rules.adjustSeparators }
  let (coalesced, walkReports) := walk.coalesce
  let (overriding, overrideReports) := overrides analysis map host placement
  (coalesced, overriding, analysisReports ++ walkReports ++ overrideReports)

/-- The position map of a snippet, with all reports. -/
def normalize (normalizer : Normalizer) (code : String) (map : NativeMap) (host : Host)
    (placement : Placement) : PositionMap × List Diagnostic :=
  let (coalesced, overriding, reports) := normalizer.passes code map host placement
  (PositionMap.encode host coalesced overriding, reports)

end Normalizer

end Inlay
