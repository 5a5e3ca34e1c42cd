/-
**Statements.**

Declarations, control flow, loops, modules, and how reading goes on after code that cannot be
understood.

Main definitions:

* `Inlay.Syntax.declaration` — variables;
* `Inlay.Syntax.collectionLoop`, `Inlay.Syntax.countingLoop` — the two kinds of `for`;
* `Inlay.Syntax.statements` — statements up to a closing brace or the end, with what cannot be read
  set aside;
* `Inlay.Syntax.block`, `Inlay.Syntax.statement`.
-/
import Inlay.Syntax.Expression

set_option autoImplicit false

namespace Inlay.Syntax

/-! ### Declarations -/

/-- One name of a declaration, with its type and its value. -/
def declarator (self : Grammar) : Row :=
  node .declarator
    (row [field "name" (self .binding), optional (next (mark "!")),
      optional (next (field "type" (typeClause self))),
      optional (next (initializer self true))])

/-- An equals sign without a value. -/
def strayEquals : Row :=
  named "ERROR" (mark "=")

/-- The names of a declaration and its end. -/
def declarationTail (self : Grammar) : Row :=
  row [next (separated (mark ",") (declarator self)), optional (next strayEquals), semicolon true]

/-- Whether a word that may be a name starts a declaration. -/
def declares (word : String) : Row := do
  let trees ← keyword word
  let _ ← Reader.ahead (next (oneOf [mark "[", mark "\x7b", identifier]))
  return trees

/-- A declaration of variables. -/
def declaration (self : Grammar) : Row :=
  oneOf [
    node .declaration (row [field "kind" (keyword "const"), declarationTail self]),
    node .declaration (row [field "kind" (declares "let"), declarationTail self]),
    node .declaration (row [keyword "var", declarationTail self])]

/-! ### Other declarations -/

/-- A member of an enumeration. -/
def enumMember (self : Grammar) : Row :=
  named "enum_assignment"
    (row [field "name" (propertyName self), next (initializer self true)]) <|>
    field "name" (propertyName self)

/-- An enumeration. -/
def enumeration (self : Grammar) : Row :=
  named "enum_declaration"
    (row [optional (row [keyword "const", gap]), keyword "enum", next (field "name" bindingName),
      next (field "body" (named "enum_body"
        (row [mark "\x7b", commaList (enumMember self), next (mark "\x7d")])))])

/-- An interface. -/
def interface (self : Grammar) : Row :=
  named "interface_declaration"
    (row [keyword "interface", next (field "name" typeName),
      optional (next (field "type_parameters" (typeParameters self))),
      optional (next (named "extends_type_clause"
        (row [keyword "extends", next (self .type),
          many (row [next (mark ","), next (self .type)])]))),
      next (field "body" (members "interface_body" self))])

/-- A name for a type. -/
def typeAlias (self : Grammar) : Row :=
  named "type_alias_declaration"
    (row [keyword "type", next (field "name" typeName),
      optional (next (field "type_parameters" (typeParameters self))), next (mark "="),
      next (field "value" (self .type)), semicolon false])

/-- A dotted name. -/
def dottedName : Row :=
  chain bindingName fun front =>
    widen "nested_identifier" (withField "object" front)
      (row [next (mark "."), next (field "property" propertyWord)])

/-- A named group of declarations. -/
def namespaceDeclaration (self : Grammar) : Row :=
  let tail := row [next (field "name" (quoted <|> dottedName)),
    optional (next (field "body" (self .block)))]
  named "expression_statement"
      (named "internal_module" (row [keyword "namespace", tail])) <|>
    named "module" (row [keyword "module", tail])

/-- A declaration of something that exists elsewhere. -/
def ambient (self : Grammar) (inner : Row) : Row :=
  named "ambient_declaration"
    (row [keyword "declare",
      next (row [keyword "global", next (self .block)] <|> inner)])

/-- Any declaration. -/
def anyDeclaration (self : Grammar) : Row :=
  oneOf [enumeration self, declaration self, functionDeclaration self, classDeclaration self,
    interface self, typeAlias self, namespaceDeclaration self]

/-! ### Modules -/

/-- Where something is imported from. -/
def fromClause : Row :=
  row [keyword "from", next (field "source" quoted)]

/-- A name in a list of imports or exports, perhaps renamed. -/
def specifier (kind : String) : Row :=
  let name := propertyWord <|> quoted
  let plain := row [field "name" name,
    optional (row [next (keyword "as"), next (field "alias" name)])]
  let typed := do
    let word ← keywordOf ["type", "typeof"]
    let _ ← Reader.ahead (next (oneOf [quoted, propertyWord]))
    Reader.ensure fun code => !hasWord "as" (code.dropWhile isSpace)
    let more ← next plain
    return word ++ more
  named kind (typed <|> plain)

/-- Names in braces. -/
def specifiers (listKind kind : String) : Row :=
  named listKind (row [mark "\x7b", commaList (specifier kind), next (mark "\x7d")])

/-- Everything that a module has, under one name. -/
def namespaceImport : Row :=
  named "namespace_import" (row [mark "*", next (keyword "as"), next bindingName])

/-- An import. -/
def importStatement : Row :=
  let group := namespaceImport <|> specifiers "named_imports" "import_specifier"
  let clause := named "import_clause"
    (group <|> row [bindingName, optional (row [next (mark ","), next group])])
  let requirement := named "import_require_clause"
    (row [bindingName, next (mark "="), next (keyword "require"), next (mark "("),
      next (field "source" quoted), next (mark ")")])
  let what := oneOf [requirement, row [clause, next fromClause], field "source" quoted]
  named "import_statement"
    (row [keyword "import",
      row [next (keywordOf ["type", "typeof"]), next what] <|> next what, semicolon false])

/-- An export. -/
def exportStatement (self : Grammar) : Row :=
  let clause := specifiers "export_clause" "export_specifier"
  let all := named "namespace_export" (row [mark "*", next (keyword "as"), next propertyWord])
  let what := oneOf [
    row [oneOf [all, mark "*"], next fromClause, semicolon false],
    row [optional (row [keyword "type", gap]), clause, optional (next fromClause), semicolon false],
    row [mark "=", next (self (.expression true)), semicolon true],
    row [keyword "default",
      next (oneOf [field "declaration" (functionDeclaration self <|> classDeclaration self
          <|> interface self),
        row [field "value" (self (.expression true)), semicolon true]])],
    field "declaration" (oneOf [anyDeclaration self, ambient self (anyDeclaration self)])]
  named "export_statement"
    (row [many (row [field "decorator" (decorator self), gap]), keyword "export", next what])

/-! ### Loops -/

/-- The word between the binding of a loop and its collection. -/
def loopOperator : Row :=
  field "operator" (keywordOf ["in", "of"])

/-- A loop over a collection. -/
def collectionLoop (self : Grammar) : Row :=
  let header (left : Row) : Row := row [left, next loopOperator]
  let anyHeader := oneOf [
    header (row [field "kind" (keyword "var"), next (field "left" (self .binding))]),
    header (row [field "kind" (keyword "var"), next (field "left" (self .binding)),
      next (initializer self false)]),
    header (row [field "kind" (keywordOf ["let", "const"]), next (field "left" (self .binding))]),
    header (field "left" (oneOf [objectPattern self, arrayPattern self])),
    header (field "left" (self .reference))]
  node .iteration
    (row [keyword "for", optional (next (keyword "await")), next (mark "("), next anyHeader,
      next (field "right" (self .sequence)), next (mark ")"),
      next (field "body" (self .statement))])

/-- A semicolon alone. -/
def emptyStatement : Row :=
  named "empty_statement" (mark ";")

/-- A loop with a start, a condition and a step. -/
def countingLoop (self : Grammar) : Row :=
  let start := oneOf [
    field "initializer" (declaration self),
    row [field "initializer" (self .sequence), next (mark ";")],
    field "initializer" emptyStatement]
  let condition := field "condition"
    (row [self .sequence, next (mark ";")] <|> emptyStatement)
  named "for_statement"
    (row [keyword "for", next (mark "("), next start, next condition,
      optional (next (field "increment" (self .sequence))), next (mark ")"),
      next (field "body" (self .statement))])

/-! ### Control flow -/

/-- A choice between two statements. -/
def ifStatement (self : Grammar) : Row :=
  named "if_statement"
    (row [keyword "if", next (field "condition" (parenthesized self)),
      next (field "consequence" (self .statement)),
      optional (next (field "alternative"
        (named "else_clause" (row [keyword "else", next (self .statement)]))))])

/-- A loop that tests first. -/
def whileStatement (self : Grammar) : Row :=
  named "while_statement"
    (row [keyword "while", next (field "condition" (parenthesized self)),
      next (field "body" (self .statement))])

/-- A loop that tests last. -/
def doStatement (self : Grammar) : Row :=
  named "do_statement"
    (row [keyword "do", next (field "body" (self .statement)), next (keyword "while"),
      next (field "condition" (parenthesized self)), optional (semicolon false)])

/-- A choice by value. -/
def switchStatement (self : Grammar) : Row :=
  let body := many (next (field "body" (self .statement)))
  let case_ := named "switch_case"
    (row [keyword "case", next (field "value" (self .sequence)), next (mark ":"), body])
  let default_ := named "switch_default" (row [keyword "default", next (mark ":"), body])
  named "switch_statement"
    (row [keyword "switch", next (field "value" (parenthesized self)),
      next (field "body" (named "switch_body"
        (row [mark "\x7b", many (next (case_ <|> default_)), next (mark "\x7d")])))])

/-- A block with what to do when it fails. -/
def tryStatement (self : Grammar) : Row :=
  let body := next (field "body" (self .block))
  let caught := row [mark "(", next (field "parameter" (self .binding)),
    optional (next (field "type" (typeClause self))), next (mark ")")]
  named "try_statement"
    (row [keyword "try", body,
      optional (next (field "handler" (named "catch_clause"
        (row [keyword "catch", optional (next caught), body])))),
      optional (next (field "finalizer" (named "finally_clause" (row [keyword "finally", body]))))])

/-- The name of a statement. -/
def labelName : Row := do
  let word := String.ofList (wordAt (← Reader.rest))
  if reserved.contains word then Reader.fail
  else anyWord fun _ => .other "statement_identifier"

/-- A jump out of a loop or to its next round. -/
def jump (kind word : String) : Row :=
  named kind
    (row [keyword word,
      row [semicolon false] <|> row [next (field "label" labelName), semicolon false]])

/-- A statement that hands a value over. -/
def handOver (kind word : String) (self : Grammar) : Row :=
  named kind
    (row [keyword word, semicolon false <|> row [next (self .sequence), semicolon true]])

/-- A statement with a label. -/
def labeled (self : Grammar) : Row :=
  named "labeled_statement"
    (row [field "label" labelName, next (mark ":"),
      next (field "body" (self .statement))])

/-- Statements in which names are looked up in an object first. -/
def withStatement (self : Grammar) : Row :=
  named "with_statement"
    (row [keyword "with", next (field "object" (parenthesized self)),
      next (field "body" (self .statement))])

/-- An expression as a statement. -/
def expressionStatement (self : Grammar) : Row :=
  named "expression_statement" (row [self .sequence, semicolon true])

/-- A statement that starts with a word. -/
def wordStatement (self : Grammar) : Row := do
  let plain := labeled self <|> expressionStatement self
  match String.ofList (wordAt (← Reader.rest)) with
  | "if" => ifStatement self
  | "for" => collectionLoop self <|> countingLoop self
  | "while" => whileStatement self
  | "do" => doStatement self
  | "switch" => switchStatement self
  | "try" => tryStatement self
  | "break" => jump "break_statement" "break"
  | "continue" => jump "continue_statement" "continue"
  | "return" => handOver "return_statement" "return" self
  | "throw" => handOver "throw_statement" "throw" self
  | "with" => withStatement self
  | "debugger" => named "debugger_statement" (row [keyword "debugger", semicolon false])
  | "import" => importStatement <|> expressionStatement self
  | "export" => exportStatement self
  | "declare" => ambient self (anyDeclaration self) <|> plain
  | "const" | "let" | "var" | "function" | "class" | "enum" | "interface" | "type" | "namespace"
  | "module" | "abstract" | "async" => anyDeclaration self <|> plain
  | _ => plain

/-- A statement. -/
def statement (self : Grammar) : Row := do
  match ← Reader.rest with
  | '{' :: _ => self .block <|> expressionStatement self
  | ';' :: _ => emptyStatement
  | '@' :: _ => exportStatement self <|> classDeclaration self
  | _ => wordStatement self

/-! ### Lists of statements -/

/-- One token of code that cannot be understood. -/
def strayToken : Row := do
  let code ← Reader.rest
  match code with
  | [] => Reader.fail
  | '}' :: _ => Reader.fail
  | c :: _ =>
    named "ERROR"
      (oneOf [anyWord .identifier, number, quoted,
        (match symbolAt code with
        | some symbol => mark symbol
        | none => leaf (.token c.toString) 1)])

/-- Statements up to a closing brace or the end of the code; what cannot be read is set aside. -/
def statements (self : Grammar) : Row :=
  many (next (self .statement <|> strayToken))

/-- Statements in braces.  At the end of the code the closing brace of a block that is not empty may
be missing. -/
def block (self : Grammar) : Row :=
  let closed := row [next (mark "\x7d"), optional (automaticEnd true)]
  let body : Row := do
    let trees ← statements self
    let unclosed : Row :=
      if trees.isEmpty then Reader.fail
      else do
        let _ ← Reader.ahead (next atEnd)
        return []
    let stop ← closed <|> unclosed
    return trees ++ stop
  node .block (row [mark "\x7b", body])

end Inlay.Syntax
