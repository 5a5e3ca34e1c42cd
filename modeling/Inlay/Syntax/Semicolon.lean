/-
**Semicolons.**

A statement ends with a semicolon, or without one where the code makes the end clear: at the end of
the code, before a closing brace, and at the end of a line unless the next line goes on with the
statement.

Main definitions:

* `Inlay.Syntax.endsStatement` — whether a statement may end here without a semicolon;
* `Inlay.Syntax.automaticEnd` — such an end, with the comments before it on its line;
* `Inlay.Syntax.semicolon` — the end of a statement.
-/
import Inlay.Syntax.Token

set_option autoImplicit false

namespace Inlay.Syntax

/-- The code after white space and comments; none if a lone slash stands there. -/
def afterComments : Nat → List Char → Option (List Char)
  | 0, _ => none
  | fuel + 1, code =>
    let here := code.dropWhile isSpace
    match here with
    | '/' :: _ =>
      match commentLength here with
      | some n => afterComments fuel (here.drop n)
      | none => none
    | _ => some here

/-- Whether code after the letters of `in` shows that they were not that operator, nor the start of
`instanceof`. -/
def isOtherWord (code : List Char) : Bool :=
  let letterNext (code : List Char) : Bool := code.head?.any Char.isAlpha
  if !letterNext code then false
  else if "stanceof".toList.isPrefixOf code then letterNext (code.drop 8)
  else true

/-- Whether a line does not go on with the statement before it.  After an expression, an opening
parenthesis or bracket does. -/
def startsAfresh (afterExpression : Bool) : List Char → Bool
  | [] => true
  | '+' :: rest => rest.head? == some '+'
  | '-' :: rest => rest.head? == some '-'
  | '!' :: rest => rest.head? != some '='
  | '(' :: _ => !afterExpression
  | '[' :: _ => !afterExpression
  | 'i' :: 'n' :: rest => isOtherWord rest
  | c :: _ =>
    !(['\x60', ',', '.', ';', '*', '%', '>', '<', '=', '?', '^', '|', '&', '/', ':'].contains c)

/-- Whether a statement may end here without a semicolon. -/
def endsStatement (afterExpression : Bool) : List Char → Bool
  | [] => true
  | '}' :: _ => true
  | '\n' :: rest =>
    match afterComments (rest.length + 1) rest with
    | some code => startsAfresh afterExpression code
    | none => false
  | c :: rest => if isSpace c then endsStatement afterExpression rest else false

/-- The end of a statement without a semicolon, after at most `count` comments on its line. -/
def automaticEndUpTo (afterExpression : Bool) : Nat → Row
  | 0 => Reader.fail
  | count + 1 => fun input =>
    if endsStatement afterExpression input.rest then some ([], input)
    else
      match comment (skipSpace input) with
      | none => none
      | some (found, after) =>
        match automaticEndUpTo afterExpression count after with
        | some (more, last) => some (found ++ more, last)
        | none => none

/-- The end of a statement without a semicolon; comments before it on its line belong to it. -/
def automaticEnd (afterExpression : Bool) : Row :=
  fun input => automaticEndUpTo afterExpression (input.rest.length + 1) input

/-- The end of a statement. -/
def semicolon (afterExpression : Bool) : Row :=
  automaticEnd afterExpression <|> next (mark ";")

/-- Whether no line break stands before the next token. -/
def onSameLine (code : List Char) : Bool :=
  !(code.takeWhile isSpace).contains '\n'

end Inlay.Syntax
