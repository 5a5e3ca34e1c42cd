/-
**General categories.**

Every character has one general category.  The tables list the code points of each assigned
category; a code point on no table is unassigned.

Main definitions:

* `Inlay.Unicode.Category` — the categories, surrogates left out because no character is one;
* `Inlay.Unicode.Category.holds` — whether a code point has a category;
* `Inlay.Unicode.Category.ofName` — the categories meant by a loose name such as `l` or
  `uppercaseletter`.
-/
import Inlay.Unicode.Category.Letter
import Inlay.Unicode.Category.Mark
import Inlay.Unicode.Category.Number
import Inlay.Unicode.Category.Punctuation
import Inlay.Unicode.Category.Separator
import Inlay.Unicode.Category.Symbol

set_option autoImplicit false

namespace Inlay.Unicode

/-- The general categories that characters can have. -/
inductive Category where
  | uppercaseLetter | lowercaseLetter | titlecaseLetter | modifierLetter | otherLetter
  | nonspacingMark | spacingMark | enclosingMark
  | decimalNumber | letterNumber | otherNumber
  | connectorPunctuation | dashPunctuation | openPunctuation | closePunctuation
  | initialPunctuation | finalPunctuation | otherPunctuation
  | mathSymbol | currencySymbol | modifierSymbol | otherSymbol
  | spaceSeparator | lineSeparator | paragraphSeparator
  | control | format | privateUse | unassigned
  deriving DecidableEq, Repr

namespace Category

/-- The table of a category; unassigned code points have none. -/
def runs : Category → Runs
  | uppercaseLetter => Table.uppercaseLetter
  | lowercaseLetter => Table.lowercaseLetter
  | titlecaseLetter => Table.titlecaseLetter
  | modifierLetter => Table.modifierLetter
  | otherLetter => Table.otherLetter
  | nonspacingMark => Table.nonspacingMark
  | spacingMark => Table.spacingMark
  | enclosingMark => Table.enclosingMark
  | decimalNumber => Table.decimalNumber
  | letterNumber => Table.letterNumber
  | otherNumber => Table.otherNumber
  | connectorPunctuation => Table.connectorPunctuation
  | dashPunctuation => Table.dashPunctuation
  | openPunctuation => Table.openPunctuation
  | closePunctuation => Table.closePunctuation
  | initialPunctuation => Table.initialPunctuation
  | finalPunctuation => Table.finalPunctuation
  | otherPunctuation => Table.otherPunctuation
  | mathSymbol => Table.mathSymbol
  | currencySymbol => Table.currencySymbol
  | modifierSymbol => Table.modifierSymbol
  | otherSymbol => Table.otherSymbol
  | spaceSeparator => Table.spaceSeparator
  | lineSeparator => Table.lineSeparator
  | paragraphSeparator => Table.paragraphSeparator
  | control => Table.control
  | format => Table.format
  | privateUse => Table.privateUse
  | unassigned => []

/-- The letters. -/
def letters : List Category :=
  [uppercaseLetter, lowercaseLetter, titlecaseLetter, modifierLetter, otherLetter]

/-- The marks. -/
def marks : List Category :=
  [nonspacingMark, spacingMark, enclosingMark]

/-- The numbers. -/
def numbers : List Category :=
  [decimalNumber, letterNumber, otherNumber]

/-- The punctuation. -/
def punctuation : List Category :=
  [connectorPunctuation, dashPunctuation, openPunctuation, closePunctuation, initialPunctuation,
    finalPunctuation, otherPunctuation]

/-- The symbols. -/
def symbols : List Category :=
  [mathSymbol, currencySymbol, modifierSymbol, otherSymbol]

/-- The separators. -/
def separators : List Category :=
  [spaceSeparator, lineSeparator, paragraphSeparator]

/-- Everything else that is assigned. -/
def others : List Category :=
  [control, format, privateUse]

/-- All categories with a table. -/
def assigned : List Category :=
  letters ++ marks ++ numbers ++ punctuation ++ symbols ++ separators ++ others

/-- Whether the code point `n` has the category. -/
def holds (category : Category) (n : Nat) : Bool :=
  match category with
  | unassigned => !assigned.any fun other => other.runs.contains n
  | other => other.runs.contains n

/-- The categories meant by a loose name. -/
def ofName : String → Option (List Category)
  | "lu" | "uppercaseletter" => some [uppercaseLetter]
  | "ll" | "lowercaseletter" => some [lowercaseLetter]
  | "lt" | "titlecaseletter" => some [titlecaseLetter]
  | "lc" | "casedletter" => some [uppercaseLetter, lowercaseLetter, titlecaseLetter]
  | "lm" | "modifierletter" => some [modifierLetter]
  | "lo" | "otherletter" => some [otherLetter]
  | "l" | "letter" => some letters
  | "mn" | "nonspacingmark" => some [nonspacingMark]
  | "mc" | "spacingmark" => some [spacingMark]
  | "me" | "enclosingmark" => some [enclosingMark]
  | "m" | "mark" | "combiningmark" => some marks
  | "nd" | "decimalnumber" | "digit" => some [decimalNumber]
  | "nl" | "letternumber" => some [letterNumber]
  | "no" | "othernumber" => some [otherNumber]
  | "n" | "number" => some numbers
  | "pc" | "connectorpunctuation" => some [connectorPunctuation]
  | "pd" | "dashpunctuation" => some [dashPunctuation]
  | "ps" | "openpunctuation" => some [openPunctuation]
  | "pe" | "closepunctuation" => some [closePunctuation]
  | "pi" | "initialpunctuation" => some [initialPunctuation]
  | "pf" | "finalpunctuation" => some [finalPunctuation]
  | "po" | "otherpunctuation" => some [otherPunctuation]
  | "p" | "punctuation" | "punct" => some punctuation
  | "sm" | "mathsymbol" => some [mathSymbol]
  | "sc" | "currencysymbol" => some [currencySymbol]
  | "sk" | "modifiersymbol" => some [modifierSymbol]
  | "so" | "othersymbol" => some [otherSymbol]
  | "s" | "symbol" => some symbols
  | "zs" | "spaceseparator" => some [spaceSeparator]
  | "zl" | "lineseparator" => some [lineSeparator]
  | "zp" | "paragraphseparator" => some [paragraphSeparator]
  | "z" | "separator" => some separators
  | "cc" | "control" | "cntrl" => some [control]
  | "cf" | "format" => some [format]
  | "cs" | "surrogate" => some []
  | "co" | "privateuse" => some [privateUse]
  | "cn" | "unassigned" => some [unassigned]
  | "c" | "other" => some (others ++ [unassigned])
  | "assigned" => some assigned
  | _ => none

end Category

end Inlay.Unicode
