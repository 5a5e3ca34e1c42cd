/-
**Scripts by name.**

Main definitions:

* `Inlay.Unicode.Script.ofName` — the code points of a script, found by any of its loose names.
-/
import Inlay.Unicode.Script.PartA
import Inlay.Unicode.Script.PartB
import Inlay.Unicode.Script.PartC
import Inlay.Unicode.Script.PartD

set_option autoImplicit false

namespace Inlay.Unicode.Script

/-- All scripts with their loose names. -/
def all : List (List String × Runs) :=
  Table.scriptsA ++ Table.scriptsB ++ Table.scriptsC ++ Table.scriptsD

/-- The code points of the script with the given loose name. -/
def ofName (name : String) : Option Runs :=
  (all.find? fun entry => entry.1.contains name).map Prod.snd

end Inlay.Unicode.Script
