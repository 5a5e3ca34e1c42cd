/-
**Bindings.**

Names of properties, and the patterns that take objects and arrays apart.

Main definitions:

* `Inlay.Syntax.propertyName` — a property: a word, a string, a number, or computed;
* `Inlay.Syntax.objectPattern`, `Inlay.Syntax.arrayPattern`;
* `Inlay.Syntax.binding` — what a declaration binds.
-/
import Inlay.Syntax.Goal

set_option autoImplicit false

namespace Inlay.Syntax

/-- An expression in brackets as a property. -/
def computedName (self : Grammar) : Row :=
  named "computed_property_name"
    (row [mark "[", next (self (.expression true)), next (mark "]")])

/-- A property of an object or a class. -/
def propertyName (self : Grammar) : Row :=
  oneOf [propertyWord, privateName, quoted, number, computedName self]

/-- The value after an equals sign. -/
def initializer (self : Grammar) (allowIn : Bool) : Row :=
  row [mark "=", next (field "value" (self (.expression allowIn)))]

/-- The rest of the elements. -/
def restPattern (self : Grammar) : Row :=
  named "rest_pattern" (row [mark "...", next (self .binding <|> self .reference)])

/-- An element of a pattern without a default. -/
def patternTarget (self : Grammar) : Row := do
  match ← Reader.rest with
  | '[' :: _ => self .binding
  | '{' :: _ => self .binding
  | _ => self .reference

/-- An element of a pattern, perhaps with a default. -/
def patternElement (self : Grammar) : Row :=
  restPattern self <|>
    widenOnce (patternTarget self) fun target =>
      widen "assignment_pattern" (withField "left" target)
        (row [next (mark "="), next (field "right" (self (.expression true)))])

/-- A pattern for arrays. -/
def arrayPattern (self : Grammar) : Row :=
  named "array_pattern" (row [mark "[", withHoles (patternElement self), next (mark "]")])

/-- A property of a pattern with a pattern of its own. -/
def pairPattern (self : Grammar) : Row :=
  named "pair_pattern"
    (row [field "key" (propertyName self), next (mark ":"),
      next (field "value" (patternElement self))])

/-- A property of a pattern with a default. -/
def assignmentInPattern (self : Grammar) : Row :=
  named "object_assignment_pattern"
    (row [field "left" propertyWord, next (mark "="),
      next (field "right" (self (.expression true)))])

/-- A pattern for objects. -/
def objectPattern (self : Grammar) : Row :=
  named "object_pattern"
    (row [mark "\x7b",
      withHoles (oneOf [restPattern self, pairPattern self, assignmentInPattern self,
        propertyWord]),
      next (mark "\x7d")])

/-- What a declaration binds. -/
def binding (self : Grammar) : Row :=
  oneOf [objectPattern self, arrayPattern self, bindingName]

end Inlay.Syntax
