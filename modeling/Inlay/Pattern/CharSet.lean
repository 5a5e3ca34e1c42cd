/-
**Sets of characters in patterns.**

A set is built from ranges, named properties and the set operations.  Ignoring case is an operation
too: it closes a set under the change of case.

Main definitions:

* `Inlay.CharSet` — the sets;
* `Inlay.CharSet.contains` — membership of a code point;
* `Inlay.CharSet.ofProperty` — the set with a Unicode property, by its loose name;
* `Inlay.CharSet.ofAsciiClass` — the set with a bracketed class name such as `alpha`.
-/
import Inlay.Unicode.Folding
import Inlay.Unicode.Property
import Inlay.Unicode.Script

set_option autoImplicit false

namespace Inlay

/-- A set of characters. -/
inductive CharSet where
  | empty
  | range (first last : Nat)
  | decimal
  | space
  | word
  | lowercase
  | uppercase
  | runs (table : Unicode.Runs)
  | category (kind : Unicode.Category)
  | not (inner : CharSet)
  | or (left right : CharSet)
  | and (left right : CharSet)
  /-- The inner set closed under change of case. -/
  | anyCase (inner : CharSet)
  deriving Repr

namespace CharSet

/-- Whether the code point `n` is in the set. -/
def contains : CharSet → Nat → Bool
  | empty, _ => false
  | range first last, n => first ≤ n && n ≤ last
  | decimal, n => Unicode.isDecimal (Char.ofNat n)
  | space, n => Unicode.isSpace (Char.ofNat n)
  | word, n => Unicode.isWord (Char.ofNat n)
  | lowercase, n => Unicode.isLowercase (Char.ofNat n)
  | uppercase, n => Unicode.isUppercase (Char.ofNat n)
  | runs table, n => table.contains n
  | category kind, n => kind.holds n
  | not inner, n => !inner.contains n
  | or left right, n => left.contains n || right.contains n
  | and left right, n => left.contains n && right.contains n
  | anyCase inner, n => (Unicode.caseVariants n).any fun m => inner.contains m

/-- The set of one character. -/
def single (c : Char) : CharSet :=
  range c.toNat c.toNat

/-- The union of a list of sets. -/
def union : List CharSet → CharSet
  | [] => empty
  | [set] => set
  | set :: rest => or set (union rest)

/-- Every character. -/
def all : CharSet :=
  range 0 0x10FFFF

/-- The difference of two sets. -/
def diff (left right : CharSet) : CharSet :=
  and left (not right)

/-- The symmetric difference of two sets. -/
def xor (left right : CharSet) : CharSet :=
  or (diff left right) (diff right left)

/-- The characters between two letters. -/
def between (first last : Char) : CharSet :=
  range first.toNat last.toNat

/-- ASCII white space. -/
def asciiSpace : CharSet :=
  union [range 9 13, single ' ']

/-- ASCII letters, digits and the underscore. -/
def asciiWord : CharSet :=
  union [between '0' '9', between 'A' 'Z', single '_', between 'a' 'z']

/-! ### Sets by name -/

/-- The set of a class name in double brackets. -/
def ofAsciiClass : String → Option CharSet
  | "alnum" => some (union [between '0' '9', between 'A' 'Z', between 'a' 'z'])
  | "alpha" => some (union [between 'A' 'Z', between 'a' 'z'])
  | "ascii" => some (range 0 0x7F)
  | "blank" => some (union [single '\t', single ' '])
  | "cntrl" => some (union [range 0 0x1F, range 0x7F 0x7F])
  | "digit" => some (between '0' '9')
  | "graph" => some (between '!' '~')
  | "lower" => some (between 'a' 'z')
  | "print" => some (between ' ' '~')
  | "punct" => some (union [between '!' '/', between ':' '@', between '[' '\x60', between '\x7b' '~'])
  | "space" => some asciiSpace
  | "upper" => some (between 'A' 'Z')
  | "word" => some asciiWord
  | "xdigit" => some (union [between '0' '9', between 'A' 'F', between 'a' 'f'])
  | _ => none

/-- The loose form of a name: lower case, without blanks, underscores, hyphens and characters beyond
ASCII, and without a leading `is`. -/
def looseName (name : List Char) : String :=
  let name :=
    match name with
    | 'i' :: 's' :: rest | 'I' :: 's' :: rest | 'i' :: 'S' :: rest | 'I' :: 'S' :: rest => rest
    | other => other
  let kept := name.filter fun c => c != ' ' && c != '_' && c != '-' && c.toNat < 128
  String.ofList (kept.map Char.toLower)

/-- The set of a list of categories. -/
def ofCategories (categories : List Unicode.Category) : CharSet :=
  union (categories.map category)

/-- The set of a property given by one name: a yes-or-no property, a category or a script. -/
def ofProperty (name : List Char) : Option CharSet :=
  match looseName name with
  | "any" => some all
  | "ascii" => some (range 0 0x7F)
  | "alphabetic" | "alpha" =>
    some (or (ofCategories (Unicode.Category.letterNumber :: Unicode.Category.letters))
      (runs Unicode.Table.alphabeticSymbol))
  | "lowercase" | "lower" => some lowercase
  | "uppercase" | "upper" => some uppercase
  | "whitespace" | "wspace" | "space" => some space
  | loose =>
    match Unicode.Category.ofName loose with
    | some categories => some (ofCategories categories)
    | none => (Unicode.Script.ofName loose).map runs

/-- The set of a property given by name and value. -/
def ofPropertyValue (name value : List Char) : Option CharSet :=
  match looseName name with
  | "generalcategory" | "gc" =>
    match looseName value with
    | "any" => some all
    | "ascii" => some (range 0 0x7F)
    | loose => (Unicode.Category.ofName loose).map ofCategories
  | "script" | "sc" | "scriptextensions" | "scx" =>
    (Unicode.Script.ofName (looseName value)).map runs
  | _ => none

end CharSet

end Inlay
