/-
**Types.**

Annotations, type parameters and arguments, and the types themselves.  Names of types are not names of
values; the names that types mention by other means, such as parameters of function types, are.

Main definitions:

* `Inlay.Syntax.typeClause`, `Inlay.Syntax.typeArguments`, `Inlay.Syntax.typeParameters`;
* `Inlay.Syntax.members` — the members of an interface or an object type;
* `Inlay.Syntax.type` — a type.
-/
import Inlay.Syntax.Binding

set_option autoImplicit false

namespace Inlay.Syntax

/-- A type after a colon. -/
def typeClause (self : Grammar) : Row :=
  named "type_annotation" (row [mark ":", next (self .type)])

/-- Types in angle brackets. -/
def typeArguments (self : Grammar) : Row :=
  named "type_arguments"
    (row [charMark '<', commaList (self .type), next (charMark '>')])

/-- One type parameter, with its bound and its default. -/
def typeParameter (self : Grammar) : Row :=
  named "type_parameter"
    (row [optional (row [keyword "const", gap]), field "name" typeName,
      optional (next (field "constraint"
        (named "constraint" (row [keyword "extends", next (self .type)])))),
      optional (next (field "value" (named "default_type" (row [mark "=", next (self .type)]))))])

/-- Type parameters in angle brackets. -/
def typeParameters (self : Grammar) : Row :=
  named "type_parameters"
    (row [charMark '<', commaList (typeParameter self), next (charMark '>')])

/-! ### Parameters -/

/-- Words that may stand before a parameter or a member. -/
def accessibility : Row :=
  named "accessibility_modifier" (keywordOf ["public", "private", "protected"])

/-- A word that counts as a modifier because a name follows it. -/
def modifier (word : Row) (nameStart : Row) : Row := do
  let trees ← word
  let comments ← gap
  let _ ← Reader.ahead nameStart
  return trees ++ comments

/-- An expression that decorates what follows. -/
def decorator (self : Grammar) : Row :=
  named "decorator" (row [mark "@", next (self .unary)])

/-- One parameter of a function. -/
def parameter (self : Grammar) : Row := fun input =>
  let nameStart := oneOf [mark "\x7b", mark "[", mark "...", propertyWord]
  let modifiers := row [many (row [field "decorator" (decorator self), gap]),
    many (modifier (oneOf [accessibility,
      named "override_modifier" (keyword "override"), keyword "readonly"]) nameStart)]
  let name := field "pattern" (oneOf [restPattern self, wordNode "this", self .binding])
  let rest := row [optional (next (field "type" (typeClause self))),
    optional (next (initializer self true))]
  (named "optional_parameter" (row [modifiers, name, next (mark "?"), rest]) <|>
    named "required_parameter" (row [modifiers, name, rest])) input

/-- The parameters of a function. -/
def formalParameters (self : Grammar) : Row :=
  named "formal_parameters" (row [mark "(", commaList (parameter self), next (mark ")")])

/-- What a function takes and gives. -/
def callSignature (self : Grammar) : Row :=
  row [optional (row [field "type_parameters" (typeParameters self), gap]),
    field "parameters" (formalParameters self),
    optional (next (field "return_type" (typeClause self)))]

/-! ### Members of interfaces -/

/-- The keys of a type, one by one. -/
def mappedClause (self : Grammar) : Row :=
  named "mapped_type_clause"
    (row [field "name" typeName, next (keyword "in"), next (field "type" (self .type)),
      optional (row [next (keyword "as"), next (field "alias" (self .type))])])

/-- A member that names its keys by their type. -/
def indexSignature (self : Grammar) : Row :=
  let key := row [field "name" bindingName, next (mark ":"), next (field "index_type" (self .type))]
  let sign := optional (row [field "sign" (markOf ["-", "+"]), gap])
  named "index_signature"
    (row [optional (row [sign, keyword "readonly", gap]), mark "[",
      next (mappedClause self <|> key), next (mark "]"),
      optional (row [gap, sign, mark "?"]), optional (next (field "type" (typeClause self)))])

/-- A property of an interface. -/
def propertySignature (self : Grammar) : Row :=
  named "property_signature"
    (row [optional (modifier (keyword "readonly") (propertyName self)),
      field "name" (propertyName self), optional (next (mark "?")),
      optional (next (field "type" (typeClause self)))])

/-- A method of an interface. -/
def methodSignature (self : Grammar) : Row :=
  named "method_signature"
    (row [many (modifier (keywordOf ["get", "set", "async"]) (propertyName self)),
      field "name" (propertyName self), optional (next (mark "?")), next (callSignature self)])

/-- A member that is a call or a construction. -/
def bareSignature (self : Grammar) : Row :=
  named "construct_signature" (row [keyword "new", next (callSignature self)]) <|>
    named "call_signature" (callSignature self)

/-- The members of an interface or an object type, in braces. -/
def members (kind : String) (self : Grammar) : Row :=
  let member := oneOf [bareSignature self, indexSignature self, methodSignature self,
    propertySignature self]
  let stop := oneOf [next (mark ","), semicolon false, nothing]
  named kind
    (row [mark "\x7b", many (row [next member, stop]), next (mark "\x7d")])

/-! ### Types -/

/-- The types with a name of their own. -/
def predefined : Row := do
  let word := String.ofList (wordAt (← Reader.rest))
  if ["any", "number", "boolean", "string", "symbol", "void", "unknown", "never", "object"].contains
      word then
    leaf (.other "predefined_type") word.length
  else Reader.fail

/-- A type that is a single value. -/
def literalType : Row :=
  named "literal_type"
    (oneOf [quoted, number, named "unary_expression" (row [markOf ["-", "+"], next number]),
      wordNode "true", wordNode "false", wordNode "null", wordNode "undefined"])

/-- The names before the last one of a dotted type, which are values. -/
def qualifiedType : Row := do
  let module ← bindingName
  let dotted ← chainUpTo
    (fun front => do
      let wider ← widen "nested_identifier" (withField "object" front)
        (row [mark ".", next (field "property" propertyWord)])
      Reader.ensure (hasSymbol ".")
      return wider) 64 module
  widen "nested_type_identifier" (withField "module" dotted)
    (row [mark ".", next (field "name" typeName)])

/-- A type by its name, perhaps with arguments. -/
def namedType (self : Grammar) : Row :=
  widenOnce (qualifiedType <|> typeName) fun name =>
    widen "generic_type" (withField "name" name)
      (next (field "type_arguments" (typeArguments self)))

/-- The type of a value. -/
def typeQuery (self : Grammar) : Row :=
  named "type_query"
    (row [keyword "typeof",
      next (chain (wordNode "this" <|> bindingName) fun front =>
        widen "member_expression" (withField "object" front)
          (row [next (mark "."), next (field "property" propertyWord)])),
      optional (typeArguments self)])

/-- A text type with types in it. -/
def templateType (self : Grammar) : Row :=
  let hole := named "template_type"
    (row [leaf (.token "$\x7b") 2, next (self .type), next (mark "\x7d")])
  let holeHere : Row := do
    Reader.ensure fun code => ['$', '{'].isPrefixOf code
    hole
  named "template_literal_type"
    (row [charMark '\x60', many (oneOf [templateFragment, escape, holeHere]), charMark '\x60'])

/-- An element of a tuple. -/
def tupleElement (self : Grammar) : Row :=
  oneOf [
    named "required_parameter"
      (row [field "name" bindingName, next (field "type" (typeClause self))]),
    named "optional_parameter"
      (row [field "name" bindingName, next (mark "?"), next (field "type" (typeClause self))]),
    named "required_parameter"
      (row [field "name" (named "rest_pattern" (row [mark "...", next bindingName])),
        next (field "type" (typeClause self))]),
    named "rest_type" (row [mark "...", next (self .type)]),
    widenOnce (self .type) fun front => widen "optional_type" front (next (mark "?"))]

/-- A type without operators. -/
def primaryType (self : Grammar) : Row :=
  oneOf [
    named "parenthesized_type" (row [mark "(", next (self .type), next (mark ")")]),
    members "object_type" self,
    named "tuple_type" (row [mark "[", commaList (tupleElement self), next (mark "]")]),
    templateType self,
    literalType,
    typeQuery self,
    predefined,
    leafOf "this" "this_type",
    namedType self]
where
  /-- A given word as a node of a given name. -/
  leafOf (word name : String) : Row := do
    Reader.ensure (hasWord word)
    leaf (.other name) word.length

/-- A type with brackets after it. -/
def postfixType (self : Grammar) : Row :=
  chain (primaryType self) fun front => do
    Reader.ensure onSameLine
    oneOf [
      widen "array_type" front (row [next (mark "["), next (mark "]")]),
      widen "lookup_type" front (row [next (mark "["), next (self .type), next (mark "]")])]

/-- A type with a word before it, up to `count` words. -/
def prefixedType (self : Grammar) : Nat → Row
  | 0 => postfixType self
  | count + 1 =>
    let wordThen (word kind : String) : Row :=
      named kind (row [keyword word, next (prefixedType self count)])
    oneOf [
      wordThen "keyof" "index_type_query", wordThen "readonly" "readonly_type",
      wordThen "unique" "predefined_type",
      named "infer_type" (row [keyword "infer", next typeName,
        optional (next (row [keyword "extends", next (prefixedType self count)]))]),
      postfixType self]

/-- Types with a mark between them, and perhaps before the first. -/
def markedTypes (kind symbol : String) (item : Row) : Row :=
  let rest (front : List Tree) : Row := widen kind front (row [next (mark symbol), next item])
  named kind (row [mark symbol, next (chain item rest)]) <|> chain item rest

/-- A type of alternatives. -/
def unionType (self : Grammar) : Row :=
  markedTypes "union_type" "|" (markedTypes "intersection_type" "&" (prefixedType self 4))

/-- The type of a function. -/
def functionType (self : Grammar) : Row :=
  let signature := row [
    optional (row [field "type_parameters" (typeParameters self), gap]),
    field "parameters" (formalParameters self), next (mark "=>"),
    next (field "return_type" (self .type))]
  oneOf [
    named "function_type" signature,
    named "constructor_type"
      (row [optional (row [keyword "abstract", gap]), keyword "new", next signature])]

/-- A type that says what a parameter is. -/
def typePredicate (self : Grammar) : Row :=
  let predicate := named "type_predicate"
    (row [field "name" (wordNode "this" <|> bindingName), next (keyword "is"),
      next (field "type" (self .type))])
  oneOf [
    named "asserts"
      (row [keyword "asserts", next (predicate <|> wordNode "this" <|> bindingName)]),
    predicate]

/-- A type. -/
def type (self : Grammar) : Row :=
  oneOf [
    functionType self,
    typePredicate self,
    widenOnce (unionType self) fun left =>
      widen "conditional_type" (withField "left" left)
        (row [next (keyword "extends"), next (field "right" (unionType self)), next (mark "?"),
          next (field "consequence" (self .type)), next (mark ":"),
          next (field "alternative" (self .type))])]

end Inlay.Syntax
