/-
**Character properties.**

The yes-or-no properties that the rest of the library asks for, put together from the category
tables and a few extra runs.

Main definitions:

* `Inlay.Unicode.isSpace` — white space;
* `Inlay.Unicode.isDecimal` — decimal digits of any script;
* `Inlay.Unicode.isWord` — what counts as part of a word: letters, marks, digits, connectors;
* `Inlay.Unicode.isGraphemeExtend` — characters that attach to the one before;
* `Inlay.Unicode.isPrintable` — characters with a visible form, and the plain space.

Below code point 128 the first three are decided without a table.
-/
import Inlay.Unicode.Category

set_option autoImplicit false

namespace Inlay.Unicode

namespace Table

/-- White space outside the first 128 code points. -/
def wideSpace : Runs :=
  [(0x85, 0x85, 1), (0xA0, 0xA0, 1), (0x1680, 0x1680, 1), (0x2000, 0x200A, 1), (0x2028, 0x2029, 1),
   (0x202F, 0x202F, 1), (0x205F, 0x205F, 1), (0x3000, 0x3000, 1)]

/-- Alphabetic symbols: letters in circles and squares. -/
def alphabeticSymbol : Runs :=
  [(0x24B6, 0x24E9, 1), (0x1F130, 0x1F149, 1), (0x1F150, 0x1F169, 1), (0x1F170, 0x1F189, 1)]

/-- The two join controls. -/
def joinControl : Runs :=
  [(0x200C, 0x200D, 1)]

/-- Lowercase characters that are no lowercase letters. -/
def otherLowercase : Runs :=
  [(0xAA, 0xAA, 1), (0xBA, 0xBA, 1), (0x2B0, 0x2B8, 1), (0x2C0, 0x2C1, 1), (0x2E0, 0x2E4, 1),
   (0x345, 0x345, 1), (0x37A, 0x37A, 1), (0x10FC, 0x10FC, 1), (0x1D2C, 0x1D6A, 1),
   (0x1D78, 0x1D78, 1), (0x1D9B, 0x1DBF, 1), (0x2071, 0x2071, 1), (0x207F, 0x207F, 1),
   (0x2090, 0x209C, 1), (0x2170, 0x217F, 1), (0x24D0, 0x24E9, 1), (0x2C7C, 0x2C7D, 1),
   (0xA69C, 0xA69D, 1), (0xA770, 0xA770, 1), (0xA7F1, 0xA7F4, 1), (0xA7F8, 0xA7F9, 1),
   (0xAB5C, 0xAB5F, 1), (0xAB69, 0xAB69, 1), (0x10780, 0x10780, 1), (0x10783, 0x10785, 1),
   (0x10787, 0x107B0, 1), (0x107B2, 0x107BA, 1), (0x1E030, 0x1E06D, 1)]

/-- Uppercase characters that are no uppercase letters. -/
def otherUppercase : Runs :=
  [(0x2160, 0x216F, 1), (0x24B6, 0x24CF, 1), (0x1F130, 0x1F149, 1), (0x1F150, 0x1F169, 1),
   (0x1F170, 0x1F189, 1)]

/-- Characters that extend a grapheme and are neither nonspacing nor enclosing marks. -/
def otherGraphemeExtend : Runs :=
  [(0x9BE, 0x9BE, 1), (0x9D7, 0x9D7, 1), (0xB3E, 0xB3E, 1), (0xB57, 0xB57, 1), (0xBBE, 0xBBE, 1),
   (0xBD7, 0xBD7, 1), (0xCC0, 0xCC0, 1), (0xCC2, 0xCC2, 1), (0xCC7, 0xCC8, 1), (0xCCA, 0xCCB, 1),
   (0xCD5, 0xCD6, 1), (0xD3E, 0xD3E, 1), (0xD57, 0xD57, 1), (0xDCF, 0xDCF, 1), (0xDDF, 0xDDF, 1),
   (0x1715, 0x1715, 1), (0x1734, 0x1734, 1), (0x1B35, 0x1B35, 1), (0x1B3B, 0x1B3B, 1),
   (0x1B3D, 0x1B3D, 1), (0x1B43, 0x1B44, 1), (0x1BAA, 0x1BAA, 1), (0x1BF2, 0x1BF3, 1),
   (0x200C, 0x200C, 1), (0x302E, 0x302F, 1), (0xA953, 0xA953, 1), (0xA9C0, 0xA9C0, 1),
   (0xFF9E, 0xFF9F, 1), (0x111C0, 0x111C0, 1), (0x11235, 0x11235, 1), (0x1133E, 0x1133E, 1),
   (0x1134D, 0x1134D, 1), (0x11357, 0x11357, 1), (0x113B8, 0x113B8, 1), (0x113C2, 0x113C2, 1),
   (0x113C5, 0x113C5, 1), (0x113C7, 0x113C9, 1), (0x113CF, 0x113CF, 1), (0x114B0, 0x114B0, 1),
   (0x114BD, 0x114BD, 1), (0x115AF, 0x115AF, 1), (0x116B6, 0x116B6, 1), (0x11930, 0x11930, 1),
   (0x1193D, 0x1193D, 1), (0x11F41, 0x11F41, 1), (0x16FF0, 0x16FF1, 1), (0x1D165, 0x1D166, 1),
   (0x1D16D, 0x1D172, 1), (0xE0020, 0xE007F, 1)]

end Table

/-- White space of any script. -/
def isSpace (c : Char) : Bool :=
  let n := c.toNat
  if n < 128 then n == 32 || (9 ≤ n && n ≤ 13) else Table.wideSpace.contains n

/-- Decimal digits of any script. -/
def isDecimal (c : Char) : Bool :=
  let n := c.toNat
  if n < 128 then 48 ≤ n && n ≤ 57 else Table.decimalNumber.contains n

/-- Letters, marks, decimal digits, connectors such as the underscore, alphabetic symbols and the
join controls: the characters that words are made of. -/
def isWord (c : Char) : Bool :=
  let n := c.toNat
  if n < 128 then c.isAlphanum || c == '_'
  else
    (Category.letters ++ Category.marks).any (·.holds n)
      || Table.letterNumber.contains n || Table.decimalNumber.contains n
      || Table.connectorPunctuation.contains n || Table.alphabeticSymbol.contains n
      || Table.joinControl.contains n

/-- Lowercase characters. -/
def isLowercase (c : Char) : Bool :=
  Table.lowercaseLetter.contains c.toNat || Table.otherLowercase.contains c.toNat

/-- Uppercase characters. -/
def isUppercase (c : Char) : Bool :=
  Table.uppercaseLetter.contains c.toNat || Table.otherUppercase.contains c.toNat

/-- Characters that attach to the one before, such as accents. -/
def isGraphemeExtend (c : Char) : Bool :=
  Table.nonspacingMark.contains c.toNat || Table.enclosingMark.contains c.toNat
    || Table.otherGraphemeExtend.contains c.toNat

/-- Characters with a visible form, and the plain space. -/
def isPrintable (c : Char) : Bool :=
  c == ' ' ||
    (Category.letters ++ Category.marks ++ Category.numbers ++ Category.punctuation
      ++ Category.symbols).any (·.holds c.toNat)

end Inlay.Unicode
