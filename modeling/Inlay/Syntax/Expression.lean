/-
**Expressions.**

From literals and names, through members and calls, operators by their binding strength, to
assignments and arrow functions.

Main definitions:

* `Inlay.Syntax.primary`, `Inlay.Syntax.reference` — operands;
* `Inlay.Syntax.operation` — operators of a binding strength;
* `Inlay.Syntax.expression`, `Inlay.Syntax.sequence`.
-/
import Inlay.Syntax.Function

set_option autoImplicit false

namespace Inlay.Syntax

/-! ### Collections -/

/-- All elements of another collection. -/
def spread (self : Grammar) : Row :=
  named "spread_element" (row [mark "...", next (self (.expression true))])

/-- An array. -/
def array (self : Grammar) : Row :=
  named "array"
    (row [mark "[", withHoles (spread self <|> self (.expression true)), next (mark "]")])

/-- A property and its value. -/
def propertyPair (self : Grammar) : Row :=
  named "pair"
    (row [field "key" (propertyName self), next (mark ":"),
      next (field "value" (self (.expression true)))])

/-- Whether the code ends here. -/
def atEnd : Row := do
  Reader.ensure List.isEmpty
  nothing

/-- An object; at the end of the code its closing brace may be missing. -/
def object (self : Grammar) : Row :=
  let member := oneOf [spread self, methodDefinition self, propertyPair self, identifier]
  named "object"
    (row [mark "\x7b", withHoles member, next (mark "\x7d") <|> next atEnd])

/-- The expressions that are inserted in a template. -/
def substitution (self : Grammar) : Row := do
  Reader.ensure fun code => ['$', '{'].isPrefixOf code
  named "template_substitution"
    (row [leaf (.token "$\x7b") 2, next (self .sequence), next (mark "\x7d")])

/-- A template. -/
def template (self : Grammar) : Row :=
  named "template_string"
    (row [charMark '\x60', many (oneOf [templateFragment, escape, substitution self]),
      charMark '\x60'])

/-- An expression in parentheses. -/
def parenthesized (self : Grammar) : Row :=
  named "parenthesized_expression"
    (row [mark "(", next (self .sequence), optional (next (field "type" (typeClause self))),
      next (mark ")")])

/-! ### Operands -/

/-- The arguments of a call; before a brace or the end of the code the parenthesis may be missing. -/
def arguments (self : Grammar) : Row :=
  let unclosed : Row := do
    Reader.ensure fun code => code.isEmpty || code.head? == some '}'
    nothing
  named "arguments"
    (row [mark "(", withHoles (spread self <|> self (.expression true)),
      next (mark ")") <|> Reader.ahead (next unclosed)])

/-- A mark that is a node. -/
def optionalChain : Row := do
  Reader.ensure (hasSymbol "?.")
  field "optional_chain" (leaf (.other "optional_chain") 2)

/-- A member after an operand. -/
def memberSuffix (self : Grammar) (front : List Tree) : Row :=
  let property := field "property" (privateName <|> propertyWord)
  let index := row [next (mark "["), next (field "index" (self .sequence)), next (mark "]")]
  let operand := withField "object" front
  oneOf [
    widen "member_expression" operand (row [next (mark "."), next property]),
    widen "member_expression" operand (row [next optionalChain, next property]),
    widen "subscript_expression" operand index,
    widen "subscript_expression" operand (row [next optionalChain, index])]

/-- A call after an operand. -/
def callSuffix (self : Grammar) (front : List Tree) : Row :=
  let given := next (field "arguments" (arguments self))
  let types := next (field "type_arguments" (typeArguments self))
  let operand := withField "function" front
  oneOf [
    widen "call_expression" operand given,
    widen "call_expression" operand (next (field "arguments" (template self))),
    widen "call_expression" operand (row [next optionalChain, given]),
    widen "call_expression" operand (row [types, given])]

/-- The mark after an operand that says it is there. -/
def presentSuffix (front : List Tree) : Row := do
  Reader.ensure onSameLine
  widen "non_null_expression" front (next (mark "!"))

/-- The construction of an object. -/
def construction (self : Grammar) (primary : Row) : Row :=
  named "new_expression"
    (row [keyword "new", next (field "constructor" (chain primary (memberSuffix self))),
      optional (next (field "type_arguments" (typeArguments self))),
      optional (next (field "arguments" (arguments self)))])

/-- An operand that starts with a word; `primary` reads what follows `new`. -/
def wordOperand (self : Grammar) (primary : Row) : Row := do
  match String.ofList (wordAt (← Reader.rest)) with
  | "this" => wordNode "this"
  | "super" => wordNode "super"
  | "true" => wordNode "true"
  | "false" => wordNode "false"
  | "null" => wordNode "null"
  | "undefined" => wordNode "undefined"
  | "function" => functionExpression self
  | "async" => functionExpression self <|> identifier
  | "class" => classExpression self
  | "new" =>
    named "meta_property" (row [keyword "new", next (mark "."), next (keyword "target")]) <|>
      construction self primary
  | "import" =>
    named "meta_property" (row [keyword "import", next (mark "."), next (keyword "meta")]) <|>
      wordNode "import"
  | _ => identifier

/-- An operand without suffixes; `primary` reads what follows `new`. -/
def operand (self : Grammar) (primary : Row) : Row := do
  match ← Reader.rest with
  | '(' :: _ => parenthesized self
  | '[' :: _ => array self
  | '{' :: _ => object self
  | '"' :: _ => quoted
  | '\'' :: _ => quoted
  | '\x60' :: _ => template self
  | '/' :: _ => patternLiteral
  | '#' :: _ => privateName
  | '@' :: _ => classExpression self
  | '.' :: _ => number
  | c :: _ => if isDigit c then number else wordOperand self primary
  | [] => Reader.fail

/-- An operand without suffixes, `new` at most `count` times in a row. -/
def primaryUpTo (self : Grammar) : Nat → Row
  | 0 => Reader.fail
  | count + 1 => operand self (primaryUpTo self count)

/-- An operand without suffixes. -/
def primary (self : Grammar) : Row :=
  primaryUpTo self 8

/-- An operand with its members and calls. -/
def reference (self : Grammar) : Row :=
  chain (primary self) fun front =>
    oneOf [memberSuffix self front, callSuffix self front, presentSuffix front]

/-! ### Operators -/

/-- An expression with signs before it, or a count after it. -/
def unary (self : Grammar) : Row := do
  let code ← Reader.rest
  let signed (sign : Row) : Row :=
    named "unary_expression"
      (row [field "operator" sign, next (field "argument" (self .unary))])
  let counted : Row :=
    widenOnce (reference self) fun front => do
      Reader.ensure onSameLine
      widen "update_expression" (withField "argument" front)
        (next (field "operator" (markOf ["++", "--"])))
  match symbolAt code with
  | some "!" => signed (mark "!")
  | some "~" => signed (mark "~")
  | some "-" => signed (mark "-")
  | some "+" => signed (mark "+")
  | some "++" | some "--" =>
    named "update_expression"
      (row [field "operator" (markOf ["++", "--"]), next (field "argument" (self .unary))])
  | some "<" => named "type_assertion" (row [typeArguments self, next (self .unary)])
  | _ =>
    match String.ofList (wordAt code) with
    | "typeof" => signed (keyword "typeof")
    | "void" => signed (keyword "void")
    | "delete" => signed (keyword "delete")
    | "await" =>
      named "await_expression" (row [keyword "await", next (self .unary)]) <|> counted
    | _ => counted

/-- How tightly an operator binds, and whether it groups from the right. -/
structure Strength where
  level : Nat
  fromRight : Bool := false

/-- The strength of a mark between two operands. -/
def markStrength : String → Option Strength
  | "??" => some { level := 1 }
  | "||" => some { level := 2 }
  | "&&" => some { level := 3 }
  | "|" => some { level := 4 }
  | "^" => some { level := 5 }
  | "&" => some { level := 6 }
  | "==" | "!=" | "===" | "!==" => some { level := 7 }
  | "<" | "<=" | ">" | ">=" => some { level := 8 }
  | "<<" | ">>" | ">>>" => some { level := 9 }
  | "+" | "-" => some { level := 10 }
  | "*" | "/" | "%" => some { level := 11 }
  | "**" => some { level := 12, fromRight := true }
  | _ => none

/-- The strength of the words between two operands. -/
def wordStrength : Strength where
  level := 8

/-- The operator at the start of a code, with its strength. -/
def operatorAt (allowIn : Bool) (code : List Char) : Option (Row × Strength) :=
  match symbolAt code with
  | some symbol => (markStrength symbol).map fun strength => (mark symbol, strength)
  | none =>
    if hasWord "instanceof" code then some (keyword "instanceof", wordStrength)
    else if allowIn && hasWord "in" code then some (keyword "in", wordStrength)
    else none

/-- An operator and its right operand after a left one. -/
def operatorSuffix (self : Grammar) (level : Nat) (allowIn : Bool) (front : List Tree) : Row := do
  let comments ← gap
  match operatorAt allowIn (← Reader.rest) with
  | none => Reader.fail
  | some (operator, strength) =>
    let right := if strength.fromRight then strength.level else strength.level + 1
    if level ≤ strength.level then
      widen "binary_expression" (withField "left" front ++ comments)
        (row [field "operator" operator, next (field "right" (self (.operation right allowIn)))])
    else Reader.fail

/-- A type after an expression. -/
def typeSuffix (self : Grammar) (level : Nat) (front : List Tree) : Row := do
  Reader.ensure onSameLine
  if level ≤ wordStrength.level then
    oneOf [
      widen "as_expression" front
        (row [next (keyword "as"), next (keyword "const" <|> self .type)]),
      widen "satisfies_expression" front (row [next (keyword "satisfies"), next (self .type)])]
  else Reader.fail

/-- An expression whose operators bind at least as tightly as `level`. -/
def operation (self : Grammar) (level : Nat) (allowIn : Bool) : Row :=
  chain (self .unary) fun front =>
    operatorSuffix self level allowIn front <|> typeSuffix self level front

/-- A choice between two expressions, or only its condition. -/
def conditional (self : Grammar) (allowIn : Bool) : Row :=
  widenOnce (self (.operation 1 allowIn)) fun front =>
    widen "ternary_expression" (withField "condition" front)
      (row [next (mark "?"), next (field "consequence" (self (.expression true))), next (mark ":"),
        next (field "alternative" (self (.expression allowIn)))])

/-! ### Arrow functions -/

/-- Whether the code may start an arrow function. -/
def mayBeArrow (code : List Char) : Bool :=
  let after (code : List Char) : List Char := (afterComments (code.length + 1) code).getD []
  let plain (code : List Char) : Bool :=
    match code with
    | '(' :: _ =>
      match (afterClose .code 0 code).bind symbolAfterGap with
      | some symbol => symbol == "=>" || symbol == ":"
      | none => false
    | '<' :: _ => true
    | _ =>
      let word := wordAt code
      !word.isEmpty && symbolAfterGap (code.drop word.length) == some "=>"
  plain code || (hasWord "async" code && plain (after (code.drop 5)))

/-- An arrow function. -/
def arrowFunction (self : Grammar) (allowIn : Bool) : Row :=
  let body := field "body" (do
    match ← Reader.rest with
    | '{' :: _ => self .block
    | _ => self (.expression allowIn))
  let parameters := field "parameter" bindingName <|> callSignature self
  let rest := row [parameters, next (mark "=>"), next body]
  named "arrow_function" (row [keyword "async", next rest] <|> rest)

/-! ### Assignments -/

/-- Whether a node can be assigned to. -/
def isAssignable (tree : Tree) : Bool :=
  match tree.kind with
  | .identifier _ => true
  | .other name =>
    ["member_expression", "subscript_expression", "non_null_expression", "parenthesized_expression",
      "undefined"].contains name
  | _ => false

/-- The marks that assign the result of an operation. -/
def augmentedMarks : List String :=
  ["+=", "-=", "*=", "/=", "%=", "^=", "&=", "|=", ">>=", ">>>=", "<<=", "**=", "&&=", "||=", "??="]

/-- An assignment after its left side. -/
def assignmentSuffix (self : Grammar) (allowIn : Bool) (front : List Tree) : Row :=
  if front.all isAssignable then
    let left := withField "left" front
    let right := next (field "right" (self (.expression allowIn)))
    oneOf [
      widen "assignment_expression" left (row [next (mark "="), right]),
      widen "augmented_assignment_expression" left
        (row [next (field "operator" (markOf augmentedMarks)), right])]
  else Reader.fail

/-- An assignment that takes its right side apart. -/
def destructuring (self : Grammar) (allowIn : Bool) : Row := do
  let code ← Reader.rest
  let starts := code.head? == some '[' || code.head? == some '{'
  if starts && (afterClose .code 0 code).bind symbolAfterGap == some "=" then
    named "assignment_expression"
      (row [field "left" (self .binding), next (mark "="),
        next (field "right" (self (.expression allowIn)))])
  else Reader.fail

/-- A value handed out by a generator. -/
def yielding (self : Grammar) (allowIn : Bool) : Row :=
  named "yield_expression"
    (row [keyword "yield", optional (next (mark "*")),
      optional (do
        Reader.ensure onSameLine
        next (self (.expression allowIn)))])

/-- One expression. -/
def expression (self : Grammar) (allowIn : Bool) : Row := do
  let code ← Reader.rest
  let arrow : Row := if mayBeArrow code then arrowFunction self allowIn else Reader.fail
  oneOf [
    arrow,
    yielding self allowIn,
    destructuring self allowIn,
    widenOnce (conditional self allowIn) (assignmentSuffix self allowIn)]

/-- Expressions with commas between them. -/
def sequence (self : Grammar) : Row :=
  widenOnce (self (.expression true)) fun front => do
    let more ← row [next (mark ","), next (self (.expression true))]
    widen "sequence_expression" (front ++ more)
      (many (row [next (mark ","), next (self (.expression true))]))

end Inlay.Syntax
