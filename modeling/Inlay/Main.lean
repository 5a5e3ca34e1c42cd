/-
**The program.**

Runs the command line on the files of the machine.
-/
import Inlay.CommandLine.Run

set_option autoImplicit false

namespace Inlay.CommandLine

/-- Whether an action ends without an exception. -/
def succeeds (action : IO Unit) : IO Bool :=
  try
    action
    return true
  catch _ => return false

/-- The files of the machine. -/
def machineFiles : Files IO where
  read path :=
    try
      return some (← IO.FS.readFile path.text)
    catch _ => return none
  write path text := succeeds (IO.FS.writeFile path.text text)
  makeDirectory path := succeeds (IO.FS.createDirAll path.text)

end Inlay.CommandLine

open Inlay.CommandLine in
/-- Runs the command line and prints what it says. -/
def main (arguments : List String) : IO UInt32 := do
  let outcome ← run machineFiles arguments
  IO.print outcome.output
  outcome.complaints.forM IO.eprintln
  return outcome.status.toUInt32
