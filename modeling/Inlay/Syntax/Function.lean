/-
**Functions and classes.**

Main definitions:

* `Inlay.Syntax.functionExpression`, `Inlay.Syntax.functionDeclaration`;
* `Inlay.Syntax.methodDefinition` — a method of an object or a class;
* `Inlay.Syntax.classExpression`, `Inlay.Syntax.classDeclaration`.
-/
import Inlay.Syntax.Types

set_option autoImplicit false

namespace Inlay.Syntax

/-- The body of a function. -/
def functionBody (self : Grammar) : Row :=
  field "body" (self .block)

/-- The words that start a function; a star makes it a generator. -/
def functionHead (isGenerator : Bool) : Row :=
  row [optional (row [keyword "async", gap]), keyword "function",
    if isGenerator then next (mark "*") else nothing]

/-- A function as an expression. -/
def functionExpression (self : Grammar) : Row :=
  let rest := row [optional (next (field "name" bindingName)), next (callSignature self),
    next (functionBody self)]
  named "function_expression" (row [functionHead false, rest]) <|>
    named "generator_function" (row [functionHead true, rest])

/-- A function as a statement; without a body it is a signature. -/
def functionDeclaration (self : Grammar) : Row :=
  let front := row [next (field "name" bindingName), next (callSignature self)]
  let stop := row [next (functionBody self), optional (automaticEnd true)]
  oneOf [
    named "function_declaration" (row [functionHead false, front, stop]),
    named "generator_function_declaration" (row [functionHead true, front, stop]),
    named "function_signature" (row [functionHead false, front, semicolon false])]

/-! ### Members -/

/-- What may start the name of a member. -/
def memberStart : Row :=
  oneOf [mark "[", mark "*", privateName, quoted, number, propertyWord]

/-- The words before the name of a member. -/
def memberModifiers : Row :=
  many (oneOf [
    modifier (oneOf [accessibility, named "override_modifier" (keyword "override"),
      keywordOf ["static", "declare", "readonly", "abstract", "accessor", "async", "get", "set"]])
      memberStart,
    modifier (mark "*") memberStart])

/-- A method with its body. -/
def methodDefinition (self : Grammar) : Row :=
  named "method_definition"
    (row [memberModifiers, field "name" (propertyName self), optional (next (mark "?")),
      next (callSignature self), next (functionBody self)])

/-- A method of a class without a body. -/
def memberSignature (self : Grammar) : Row :=
  named "method_signature"
    (row [memberModifiers, field "name" (propertyName self), optional (next (mark "?")),
      next (callSignature self)])

/-- A field of a class. -/
def fieldDefinition (self : Grammar) : Row :=
  named "public_field_definition"
    (row [memberModifiers, field "name" (propertyName self), optional (next (markOf ["?", "!"])),
      optional (next (field "type" (typeClause self))), optional (next (initializer self true))])

/-- A member of a class. -/
def classMember (self : Grammar) : Row :=
  let stop := oneOf [next (mark ","), semicolon true]
  row [many (row [decorator self, gap]),
    oneOf [
      mark ";",
      named "class_static_block" (row [keyword "static", next (field "body" (self .block))]),
      row [methodDefinition self, optional (semicolon true)],
      row [indexSignature self, stop],
      row [memberSignature self, stop],
      row [fieldDefinition self, stop]]]

/-! ### Classes -/

/-- The class that a class extends, and the interfaces it implements. -/
def classHeritage (self : Grammar) : Row :=
  let extension := named "extends_clause"
    (row [keyword "extends", next (field "value" (self .unary)),
      optional (next (field "type_arguments" (typeArguments self)))])
  let interfaces := named "implements_clause"
    (row [keyword "implements", next (self .type), many (row [next (mark ","), next (self .type)])])
  named "class_heritage" (row [extension, optional (next interfaces)] <|> interfaces)

/-- The name of a class, if it has one. -/
def className : Row := do
  Reader.ensure fun code => !(hasWord "extends" code || hasWord "implements" code)
  typeName

/-- A class after its keyword. -/
def classTail (self : Grammar) : Row :=
  row [optional (next (field "name" className)),
    optional (next (field "type_parameters" (typeParameters self))),
    optional (next (classHeritage self)),
    next (field "body" (named "class_body"
      (row [mark "\x7b", many (next (classMember self)), next (mark "\x7d")])))]

/-- A class as an expression. -/
def classExpression (self : Grammar) : Row :=
  named "class" (row [many (row [decorator self, gap]), keyword "class", classTail self])

/-- A class as a statement. -/
def classDeclaration (self : Grammar) : Row :=
  let decorators := many (row [field "decorator" (decorator self), gap])
  oneOf [
    named "class_declaration"
      (row [decorators, keyword "class", classTail self, optional (automaticEnd true)]),
    named "abstract_class_declaration"
      (row [decorators, keyword "abstract", next (keyword "class"), classTail self])]

end Inlay.Syntax
