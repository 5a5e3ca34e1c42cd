/-
**Answers of a snippet compiler.**

A compiler turns a snippet into code, and perhaps reports a map of its own.  It answers in JSON: a
string with the code, or an object with the code and the map.

Main definitions:

* `Inlay.Compiled` — code, perhaps with a map;
* `Inlay.CompileError` — why there is none, with its wording;
* `Inlay.Compiled.ofText` — reading an answer.
-/
import Inlay.Native.Map

set_option autoImplicit false

namespace Inlay

/-- What a compiler makes of a snippet. -/
structure Compiled where
  code : String
  /-- The compiler's own map. -/
  map : Option NativeMap := none
  deriving DecidableEq, Repr

/-- What is wrong with an answer. -/
inductive AnswerFault where
  /-- The bytes are no text. -/
  | notText
  /-- The text is no JSON. -/
  | notJson
  /-- The value is neither a string nor an object with code. -/
  | unknownShape
  /-- The map of the object cannot be read. -/
  | map (fault : Json.ShapeError)
  deriving DecidableEq, Repr

namespace AnswerFault

/-- The fault in words. -/
def message : AnswerFault → String
  | notText => "output is not valid UTF-8"
  | notJson => "expected value"
  | unknownShape => "data did not match any variant of untagged enum RawCompileResult"
  | map (.missingField name) =>
    "Invalid compiler-native map: missing field `" ++ name ++ "`"
  | map .mismatch => "Invalid compiler-native map: invalid type"

end AnswerFault

/-- Why a program could not be started. -/
inductive StartFault where
  | notFound
  | notPermitted
  deriving DecidableEq, Repr

/-- The fault in words. -/
def StartFault.message : StartFault → String
  | notFound => "No such file or directory (os error 2)"
  | notPermitted => "Permission denied (os error 13)"

/-- Why a compiler gave no code. -/
inductive CompileError where
  /-- The compiler could not be started. -/
  | unavailable (program : String) (fault : StartFault)
  /-- The compiler refused the snippet. -/
  | failed (file reason : String)
  /-- The answer means nothing. -/
  | answer (file : String) (fault : AnswerFault)
  deriving DecidableEq, Repr

/-- The error in words. -/
def CompileError.message : CompileError → String
  | unavailable program fault =>
    "Compiler `" ++ program ++ "` is unavailable: " ++ fault.message
  | failed file reason => "Compilation of " ++ file ++ " failed: " ++ reason
  | answer file fault => "Unrecognised compiler output for " ++ file ++ ": " ++ fault.message

namespace Compiled

/-- What the members of an object say; neither member may come twice. -/
def ofMembers (members : List (String × Json)) : Except AnswerFault Compiled :=
  match Json.fields [("code", .required), ("sourceMap", .optional)] (.obj members) with
  | .ok [some (.str code), none] => .ok { code }
  | .ok [some (.str code), some .null] => .ok { code }
  | .ok [some (.str code), some map] =>
    match NativeMap.ofValue map with
    | .ok map => .ok { code, map := some map }
    | .error fault => .error (.map fault)
  | _ => .error .unknownShape

/-- What a JSON answer says. -/
def ofJson : Json → Except AnswerFault Compiled
  | .str code => .ok { code }
  | .obj members => ofMembers members
  | _ => .error .unknownShape

/-- What a compiler's answer to the snippet of a file says. -/
def ofText (file text : String) : Except CompileError Compiled :=
  match Json.parse? text with
  | none => .error (.answer file .notJson)
  | some json =>
    match json.settle? with
    | none => .error (.answer file .notJson)
    | some _ => (ofJson json).mapError (.answer file)

end Compiled

end Inlay
