/-
**Options.**

What a user may set, as plain text and switches, and the rules that follow from it once its patterns
have been read.

Main definitions:

* `Inlay.Options` — the six options, with their defaults;
* `Inlay.Options.ofText?` — options from a YAML text;
* `Inlay.Rules` — the options with their patterns read;
* `Inlay.Options.rules` — the rules, or the name of the option whose pattern cannot be read.
-/
import Inlay.Yaml.Mapping

set_option autoImplicit false

namespace Inlay

/-- What a user may set. -/
structure Options where
  /-- Names that match this are loop counters made up by the compiler. -/
  syntheticIndexPattern : String := "^i\\d*$"
  /-- Only code that matches this is analysed. -/
  loopPattern : String := "for\\s*\\("
  /-- Whether code is analysed at all. -/
  protectLoops : Bool := true
  /-- Whether a position on the blank of a comma and a blank is moved onto the comma. -/
  adjustSeparators : Bool := true
  /-- The language of the snippets that are compiled. -/
  scriptLang : String := "civet"
  /-- The language that stands in a host document after compilation. -/
  outputLang : String := "ts"
  deriving DecidableEq, Repr

/-- The options with their patterns read. -/
structure Rules where
  synthetic : Pattern
  loops : Pattern
  protectLoops : Bool
  adjustSeparators : Bool
  scriptLang : String
  outputLang : String

/-- The options that hold a pattern. -/
inductive PatternOption where
  | syntheticIndexPattern
  | loopPattern
  deriving DecidableEq, Repr

/-- The key of an option that holds a pattern. -/
def PatternOption.key : PatternOption → String
  | syntheticIndexPattern => "synthetic-index-pattern"
  | loopPattern => "loop-pattern"

namespace Options

/-- The switch that a scalar stands for; only plain scalars in three spellings are switches. -/
def switch? (scalar : Yaml.Scalar) : Option Bool :=
  if !scalar.plain then none
  else if ["true", "True", "TRUE"].contains scalar.text then some true
  else if ["false", "False", "FALSE"].contains scalar.text then some false
  else none

/-- The options with one entry set. -/
def set (options : Options) (entry : Yaml.Entry) : Option Options :=
  match entry.key with
  | "synthetic-index-pattern" => some { options with syntheticIndexPattern := entry.value.text }
  | "loop-pattern" => some { options with loopPattern := entry.value.text }
  | "protect-loops" => (switch? entry.value).map fun b => { options with protectLoops := b }
  | "adjust-separators" => (switch? entry.value).map fun b => { options with adjustSeparators := b }
  | "script-lang" => some { options with scriptLang := entry.value.text }
  | "output-lang" => some { options with outputLang := entry.value.text }
  | _ => none

/-- The options that a list of entries sets; no key may come twice. -/
def ofEntries? (entries : List Yaml.Entry) : Option Options :=
  let keys := entries.map (·.key)
  if keys.eraseDups.length = keys.length then entries.foldlM set {} else none

/-- The options written in a YAML text; a blank text leaves the defaults. -/
def ofText? (text : String) : Option Options :=
  if text.toList.all Unicode.isSpace then some {} else (Yaml.entries? text).bind ofEntries?

/-- The rules that follow from the options, or the first option whose pattern cannot be read. -/
def rules (options : Options) : Except PatternOption Rules :=
  match Pattern.ofText? options.syntheticIndexPattern with
  | none => .error .syntheticIndexPattern
  | some synthetic =>
    match Pattern.ofText? options.loopPattern with
    | none => .error .loopPattern
    | some loops =>
      .ok { synthetic, loops, protectLoops := options.protectLoops,
            adjustSeparators := options.adjustSeparators, scriptLang := options.scriptLang,
            outputLang := options.outputLang }

end Options

namespace Rules

/-- Whether a name is that of a loop counter made up by the compiler. -/
def isSynthetic (rules : Rules) (name : String) : Bool :=
  rules.synthetic.occursIn name

/-- Whether code may hold a loop. -/
def mayLoop (rules : Rules) (code : String) : Bool :=
  rules.loops.occursIn code

end Rules

end Inlay
