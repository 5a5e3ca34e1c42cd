/-
**General categories: punctuation.**

The code points of each category, as runs in increasing order.
-/
import Inlay.Unicode.Runs

set_option autoImplicit false

namespace Inlay.Unicode.Table

/-- Connectors (`Pc`). -/
def connectorPunctuation : Runs :=
  [(0x5F, 0x5F, 1), (0x203F, 0x2040, 1), (0x2054, 0x2054, 1), (0xFE33, 0xFE34, 1),
   (0xFE4D, 0xFE4F, 1), (0xFF3F, 0xFF3F, 1)]

/-- Dashes (`Pd`). -/
def dashPunctuation : Runs :=
  [(0x2D, 0x2D, 1), (0x58A, 0x58A, 1), (0x5BE, 0x5BE, 1), (0x1400, 0x1400, 1),
   (0x1806, 0x1806, 1), (0x2010, 0x2015, 1), (0x2E17, 0x2E17, 1), (0x2E1A, 0x2E1A, 1),
   (0x2E3A, 0x2E3B, 1), (0x2E40, 0x2E40, 1), (0x2E5D, 0x2E5D, 1), (0x301C, 0x301C, 1),
   (0x3030, 0x3030, 1), (0x30A0, 0x30A0, 1), (0xFE31, 0xFE32, 1), (0xFE58, 0xFE58, 1),
   (0xFE63, 0xFE63, 1), (0xFF0D, 0xFF0D, 1), (0x10D6E, 0x10D6E, 1), (0x10EAD, 0x10EAD, 1)]

/-- Opening punctuation (`Ps`). -/
def openPunctuation : Runs :=
  [(0x28, 0x28, 1), (0x5B, 0x5B, 1), (0x7B, 0x7B, 1), (0xF3A, 0xF3C, 2), (0x169B, 0x169B, 1),
   (0x201A, 0x201A, 1), (0x201E, 0x201E, 1), (0x2045, 0x2045, 1), (0x207D, 0x207D, 1),
   (0x208D, 0x208D, 1), (0x2308, 0x230A, 2), (0x2329, 0x2329, 1), (0x2768, 0x2774, 2),
   (0x27C5, 0x27C5, 1), (0x27E6, 0x27EE, 2), (0x2983, 0x2997, 2), (0x29D8, 0x29DA, 2),
   (0x29FC, 0x29FC, 1), (0x2E22, 0x2E28, 2), (0x2E42, 0x2E42, 1), (0x2E55, 0x2E5B, 2),
   (0x3008, 0x3010, 2), (0x3014, 0x301A, 2), (0x301D, 0x301D, 1), (0xFD3F, 0xFD3F, 1),
   (0xFE17, 0xFE17, 1), (0xFE35, 0xFE43, 2), (0xFE47, 0xFE47, 1), (0xFE59, 0xFE5D, 2),
   (0xFF08, 0xFF08, 1), (0xFF3B, 0xFF3B, 1), (0xFF5B, 0xFF5B, 1), (0xFF5F, 0xFF5F, 1),
   (0xFF62, 0xFF62, 1)]

/-- Closing punctuation (`Pe`). -/
def closePunctuation : Runs :=
  [(0x29, 0x29, 1), (0x5D, 0x5D, 1), (0x7D, 0x7D, 1), (0xF3B, 0xF3D, 2), (0x169C, 0x169C, 1),
   (0x2046, 0x2046, 1), (0x207E, 0x207E, 1), (0x208E, 0x208E, 1), (0x2309, 0x230B, 2),
   (0x232A, 0x232A, 1), (0x2769, 0x2775, 2), (0x27C6, 0x27C6, 1), (0x27E7, 0x27EF, 2),
   (0x2984, 0x2998, 2), (0x29D9, 0x29DB, 2), (0x29FD, 0x29FD, 1), (0x2E23, 0x2E29, 2),
   (0x2E56, 0x2E5C, 2), (0x3009, 0x3011, 2), (0x3015, 0x301B, 2), (0x301E, 0x301F, 1),
   (0xFD3E, 0xFD3E, 1), (0xFE18, 0xFE18, 1), (0xFE36, 0xFE44, 2), (0xFE48, 0xFE48, 1),
   (0xFE5A, 0xFE5E, 2), (0xFF09, 0xFF09, 1), (0xFF3D, 0xFF3D, 1), (0xFF5D, 0xFF5D, 1),
   (0xFF60, 0xFF60, 1), (0xFF63, 0xFF63, 1)]

/-- Initial quotes (`Pi`). -/
def initialPunctuation : Runs :=
  [(0xAB, 0xAB, 1), (0x2018, 0x2018, 1), (0x201B, 0x201C, 1), (0x201F, 0x201F, 1),
   (0x2039, 0x2039, 1), (0x2E02, 0x2E04, 2), (0x2E09, 0x2E09, 1), (0x2E0C, 0x2E0C, 1),
   (0x2E1C, 0x2E1C, 1), (0x2E20, 0x2E20, 1)]

/-- Final quotes (`Pf`). -/
def finalPunctuation : Runs :=
  [(0xBB, 0xBB, 1), (0x2019, 0x2019, 1), (0x201D, 0x201D, 1), (0x203A, 0x203A, 1),
   (0x2E03, 0x2E05, 2), (0x2E0A, 0x2E0A, 1), (0x2E0D, 0x2E0D, 1), (0x2E1D, 0x2E1D, 1),
   (0x2E21, 0x2E21, 1)]

/-- Part 1 of `otherPunctuation`. -/
def otherPunctuationPartA : Runs :=
  [(0x21, 0x23, 1), (0x25, 0x27, 1), (0x2A, 0x2C, 2), (0x2E, 0x2F, 1), (0x3A, 0x3B, 1),
   (0x3F, 0x40, 1), (0x5C, 0x5C, 1), (0xA1, 0xA1, 1), (0xA7, 0xA7, 1), (0xB6, 0xB7, 1),
   (0xBF, 0xBF, 1), (0x37E, 0x37E, 1), (0x387, 0x387, 1), (0x55A, 0x55F, 1), (0x589, 0x589, 1),
   (0x5C0, 0x5C0, 1), (0x5C3, 0x5C3, 1), (0x5C6, 0x5C6, 1), (0x5F3, 0x5F4, 1), (0x609, 0x60A, 1),
   (0x60C, 0x60D, 1), (0x61B, 0x61B, 1), (0x61D, 0x61F, 1), (0x66A, 0x66D, 1), (0x6D4, 0x6D4, 1),
   (0x700, 0x70D, 1), (0x7F7, 0x7F9, 1), (0x830, 0x83E, 1), (0x85E, 0x85E, 1), (0x964, 0x965, 1),
   (0x970, 0x970, 1), (0x9FD, 0x9FD, 1), (0xA76, 0xA76, 1), (0xAF0, 0xAF0, 1), (0xC77, 0xC77, 1),
   (0xC84, 0xC84, 1), (0xDF4, 0xDF4, 1), (0xE4F, 0xE4F, 1), (0xE5A, 0xE5B, 1), (0xF04, 0xF12, 1),
   (0xF14, 0xF14, 1), (0xF85, 0xF85, 1), (0xFD0, 0xFD4, 1), (0xFD9, 0xFDA, 1),
   (0x104A, 0x104F, 1), (0x10FB, 0x10FB, 1), (0x1360, 0x1368, 1), (0x166E, 0x166E, 1),
   (0x16EB, 0x16ED, 1), (0x1735, 0x1736, 1), (0x17D4, 0x17D6, 1), (0x17D8, 0x17DA, 1),
   (0x1800, 0x1805, 1), (0x1807, 0x180A, 1), (0x1944, 0x1945, 1), (0x1A1E, 0x1A1F, 1),
   (0x1AA0, 0x1AA6, 1), (0x1AA8, 0x1AAD, 1), (0x1B4E, 0x1B4F, 1), (0x1B5A, 0x1B60, 1),
   (0x1B7D, 0x1B7F, 1), (0x1BFC, 0x1BFF, 1), (0x1C3B, 0x1C3F, 1), (0x1C7E, 0x1C7F, 1),
   (0x1CC0, 0x1CC7, 1), (0x1CD3, 0x1CD3, 1), (0x2016, 0x2017, 1), (0x2020, 0x2027, 1),
   (0x2030, 0x2038, 1), (0x203B, 0x203E, 1), (0x2041, 0x2043, 1), (0x2047, 0x2051, 1),
   (0x2053, 0x2053, 1), (0x2055, 0x205E, 1), (0x2CF9, 0x2CFC, 1), (0x2CFE, 0x2CFF, 1),
   (0x2D70, 0x2D70, 1), (0x2E00, 0x2E01, 1), (0x2E06, 0x2E08, 1), (0x2E0B, 0x2E0B, 1),
   (0x2E0E, 0x2E16, 1), (0x2E18, 0x2E19, 1), (0x2E1B, 0x2E1B, 1), (0x2E1E, 0x2E1F, 1),
   (0x2E2A, 0x2E2E, 1), (0x2E30, 0x2E39, 1), (0x2E3C, 0x2E3F, 1), (0x2E41, 0x2E41, 1),
   (0x2E43, 0x2E4F, 1), (0x2E52, 0x2E54, 1), (0x3001, 0x3003, 1), (0x303D, 0x303D, 1),
   (0x30FB, 0x30FB, 1), (0xA4FE, 0xA4FF, 1), (0xA60D, 0xA60F, 1), (0xA673, 0xA673, 1),
   (0xA67E, 0xA67E, 1), (0xA6F2, 0xA6F7, 1), (0xA874, 0xA877, 1), (0xA8CE, 0xA8CF, 1),
   (0xA8F8, 0xA8FA, 1), (0xA8FC, 0xA8FC, 1), (0xA92E, 0xA92F, 1), (0xA95F, 0xA95F, 1),
   (0xA9C1, 0xA9CD, 1), (0xA9DE, 0xA9DF, 1), (0xAA5C, 0xAA5F, 1), (0xAADE, 0xAADF, 1),
   (0xAAF0, 0xAAF1, 1), (0xABEB, 0xABEB, 1), (0xFE10, 0xFE16, 1), (0xFE19, 0xFE19, 1),
   (0xFE30, 0xFE30, 1), (0xFE45, 0xFE46, 1), (0xFE49, 0xFE4C, 1), (0xFE50, 0xFE52, 1),
   (0xFE54, 0xFE57, 1), (0xFE5F, 0xFE61, 1), (0xFE68, 0xFE68, 1), (0xFE6A, 0xFE6B, 1),
   (0xFF01, 0xFF03, 1), (0xFF05, 0xFF07, 1), (0xFF0A, 0xFF0C, 2), (0xFF0E, 0xFF0F, 1),
   (0xFF1A, 0xFF1B, 1), (0xFF1F, 0xFF20, 1), (0xFF3C, 0xFF3C, 1), (0xFF61, 0xFF61, 1),
   (0xFF64, 0xFF65, 1), (0x10100, 0x10102, 1), (0x1039F, 0x1039F, 1), (0x103D0, 0x103D0, 1),
   (0x1056F, 0x1056F, 1), (0x10857, 0x10857, 1), (0x1091F, 0x1091F, 1), (0x1093F, 0x1093F, 1),
   (0x10A50, 0x10A58, 1), (0x10A7F, 0x10A7F, 1), (0x10AF0, 0x10AF6, 1), (0x10B39, 0x10B3F, 1),
   (0x10B99, 0x10B9C, 1), (0x10ED0, 0x10ED0, 1), (0x10F55, 0x10F59, 1), (0x10F86, 0x10F89, 1),
   (0x11047, 0x1104D, 1), (0x110BB, 0x110BC, 1), (0x110BE, 0x110C1, 1), (0x11140, 0x11143, 1),
   (0x11174, 0x11175, 1), (0x111C5, 0x111C8, 1)]

/-- Part 2 of `otherPunctuation`. -/
def otherPunctuationPartB : Runs :=
  [(0x111CD, 0x111CD, 1), (0x111DB, 0x111DB, 1), (0x111DD, 0x111DF, 1), (0x11238, 0x1123D, 1),
   (0x112A9, 0x112A9, 1), (0x113D4, 0x113D5, 1), (0x113D7, 0x113D8, 1), (0x1144B, 0x1144F, 1),
   (0x1145A, 0x1145B, 1), (0x1145D, 0x1145D, 1), (0x114C6, 0x114C6, 1), (0x115C1, 0x115D7, 1),
   (0x11641, 0x11643, 1), (0x11660, 0x1166C, 1), (0x116B9, 0x116B9, 1), (0x1173C, 0x1173E, 1),
   (0x1183B, 0x1183B, 1), (0x11944, 0x11946, 1), (0x119E2, 0x119E2, 1), (0x11A3F, 0x11A46, 1),
   (0x11A9A, 0x11A9C, 1), (0x11A9E, 0x11AA2, 1), (0x11B00, 0x11B09, 1), (0x11BE1, 0x11BE1, 1),
   (0x11C41, 0x11C45, 1), (0x11C70, 0x11C71, 1), (0x11EF7, 0x11EF8, 1), (0x11F43, 0x11F4F, 1),
   (0x11FFF, 0x11FFF, 1), (0x12470, 0x12474, 1), (0x12FF1, 0x12FF2, 1), (0x16A6E, 0x16A6F, 1),
   (0x16AF5, 0x16AF5, 1), (0x16B37, 0x16B3B, 1), (0x16B44, 0x16B44, 1), (0x16D6D, 0x16D6F, 1),
   (0x16E97, 0x16E9A, 1), (0x16FE2, 0x16FE2, 1), (0x1BC9F, 0x1BC9F, 1), (0x1DA87, 0x1DA8B, 1),
   (0x1E5FF, 0x1E5FF, 1), (0x1E95E, 0x1E95F, 1)]

/-- Other punctuation (`Po`). -/
def otherPunctuation : Runs :=
  otherPunctuationPartA ++ otherPunctuationPartB

end Inlay.Unicode.Table
