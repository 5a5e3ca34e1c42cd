/-
**Scripts, from Runic to Zanabazar Square.**

Each entry gives a script's names in loose form (lower case, without separators) and the code points
that carry the script, as runs in increasing order.
-/
import Inlay.Unicode.Runs

set_option autoImplicit false

namespace Inlay.Unicode.Table

/-- The scripts of this part of the table, by name. -/
def scriptsD : List (List String × Runs) :=
  [(["runr", "runic"],
    [(0x16A0, 0x16EA, 1), (0x16EE, 0x16F8, 1)]),
   (["samr", "samaritan"],
    [(0x800, 0x82D, 1), (0x830, 0x83E, 1)]),
   (["saur", "saurashtra"],
    [(0xA880, 0xA8C5, 1), (0xA8CE, 0xA8D9, 1)]),
   (["shrd", "sharada"],
    [(0x11180, 0x111DF, 1), (0x11B60, 0x11B67, 1)]),
   (["shaw", "shavian"],
    [(0x10450, 0x1047F, 1)]),
   (["sidd", "siddham"],
    [(0x11580, 0x115B5, 1), (0x115B8, 0x115DD, 1)]),
   (["sgnw", "signwriting"],
    [(0x1D800, 0x1DA8B, 1), (0x1DA9B, 0x1DA9F, 1), (0x1DAA1, 0x1DAAF, 1)]),
   (["sinh", "sinhala"],
    [(0xD81, 0xD83, 1), (0xD85, 0xD96, 1), (0xD9A, 0xDB1, 1), (0xDB3, 0xDBB, 1),
     (0xDBD, 0xDBD, 1), (0xDC0, 0xDC6, 1), (0xDCA, 0xDCA, 1), (0xDCF, 0xDD4, 1),
     (0xDD6, 0xDD6, 1), (0xDD8, 0xDDF, 1), (0xDE6, 0xDEF, 1), (0xDF2, 0xDF4, 1),
     (0x111E1, 0x111F4, 1)]),
   (["sogd", "sogdian"],
    [(0x10F30, 0x10F59, 1)]),
   (["sora", "sorasompeng"],
    [(0x110D0, 0x110E8, 1), (0x110F0, 0x110F9, 1)]),
   (["soyo", "soyombo"],
    [(0x11A50, 0x11AA2, 1)]),
   (["sund", "sundanese"],
    [(0x1B80, 0x1BBF, 1), (0x1CC0, 0x1CC7, 1)]),
   (["sunu", "sunuwar"],
    [(0x11BC0, 0x11BE1, 1), (0x11BF0, 0x11BF9, 1)]),
   (["sylo", "sylotinagri"],
    [(0xA800, 0xA82C, 1)]),
   (["syrc", "syriac"],
    [(0x700, 0x70D, 1), (0x70F, 0x74A, 1), (0x74D, 0x74F, 1), (0x860, 0x86A, 1)]),
   (["tglg", "tagalog"],
    [(0x1700, 0x1715, 1), (0x171F, 0x171F, 1)]),
   (["tagb", "tagbanwa"],
    [(0x1760, 0x176C, 1), (0x176E, 0x1770, 1), (0x1772, 0x1773, 1)]),
   (["tale", "taile"],
    [(0x1950, 0x196D, 1), (0x1970, 0x1974, 1)]),
   (["lana", "taitham"],
    [(0x1A20, 0x1A5E, 1), (0x1A60, 0x1A7C, 1), (0x1A7F, 0x1A89, 1), (0x1A90, 0x1A99, 1),
     (0x1AA0, 0x1AAD, 1)]),
   (["tavt", "taiviet"],
    [(0xAA80, 0xAAC2, 1), (0xAADB, 0xAADF, 1)]),
   (["takr", "takri"],
    [(0x11680, 0x116B9, 1), (0x116C0, 0x116C9, 1)]),
   (["taml", "tamil"],
    [(0xB82, 0xB83, 1), (0xB85, 0xB8A, 1), (0xB8E, 0xB90, 1), (0xB92, 0xB95, 1),
     (0xB99, 0xB9A, 1), (0xB9C, 0xB9C, 1), (0xB9E, 0xB9F, 1), (0xBA3, 0xBA4, 1),
     (0xBA8, 0xBAA, 1), (0xBAE, 0xBB9, 1), (0xBBE, 0xBC2, 1), (0xBC6, 0xBC8, 1),
     (0xBCA, 0xBCD, 1), (0xBD0, 0xBD0, 1), (0xBD7, 0xBD7, 1), (0xBE6, 0xBFA, 1),
     (0x11FC0, 0x11FF1, 1), (0x11FFF, 0x11FFF, 1)]),
   (["tnsa", "tangsa"],
    [(0x16A70, 0x16ABE, 1), (0x16AC0, 0x16AC9, 1)]),
   (["tang", "tangut"],
    [(0x16FE0, 0x16FE0, 1), (0x17000, 0x18AFF, 1), (0x18D00, 0x18D1E, 1), (0x18D80, 0x18DF2, 1)]),
   (["telu", "telugu"],
    [(0xC00, 0xC0C, 1), (0xC0E, 0xC10, 1), (0xC12, 0xC28, 1), (0xC2A, 0xC39, 1),
     (0xC3C, 0xC44, 1), (0xC46, 0xC48, 1), (0xC4A, 0xC4D, 1), (0xC55, 0xC56, 1),
     (0xC58, 0xC5A, 1), (0xC5C, 0xC5D, 1), (0xC60, 0xC63, 1), (0xC66, 0xC6F, 1),
     (0xC77, 0xC7F, 1)]),
   (["thaa", "thaana"],
    [(0x780, 0x7B1, 1)]),
   (["thai"],
    [(0xE01, 0xE3A, 1), (0xE40, 0xE5B, 1)]),
   (["tibt", "tibetan"],
    [(0xF00, 0xF47, 1), (0xF49, 0xF6C, 1), (0xF71, 0xF97, 1), (0xF99, 0xFBC, 1),
     (0xFBE, 0xFCC, 1), (0xFCE, 0xFD4, 1), (0xFD9, 0xFDA, 1)]),
   (["tfng", "tifinagh"],
    [(0x2D30, 0x2D67, 1), (0x2D6F, 0x2D70, 1), (0x2D7F, 0x2D7F, 1)]),
   (["tirh", "tirhuta"],
    [(0x11480, 0x114C7, 1), (0x114D0, 0x114D9, 1)]),
   (["todr", "todhri"],
    [(0x105C0, 0x105F3, 1)]),
   (["toto"],
    [(0x1E290, 0x1E2AE, 1)]),
   (["tutg", "tulutigalari"],
    [(0x11380, 0x11389, 1), (0x1138B, 0x1138B, 1), (0x1138E, 0x1138E, 1), (0x11390, 0x113B5, 1),
     (0x113B7, 0x113C0, 1), (0x113C2, 0x113C2, 1), (0x113C5, 0x113C5, 1), (0x113C7, 0x113CA, 1),
     (0x113CC, 0x113D5, 1), (0x113D7, 0x113D8, 1), (0x113E1, 0x113E2, 1)]),
   (["ugar", "ugaritic"],
    [(0x10380, 0x1039D, 1), (0x1039F, 0x1039F, 1)]),
   (["vaii", "vai"],
    [(0xA500, 0xA62B, 1)]),
   (["vith", "vithkuqi"],
    [(0x10570, 0x1057A, 1), (0x1057C, 0x1058A, 1), (0x1058C, 0x10592, 1), (0x10594, 0x10595, 1),
     (0x10597, 0x105A1, 1), (0x105A3, 0x105B1, 1), (0x105B3, 0x105B9, 1), (0x105BB, 0x105BC, 1)]),
   (["wcho", "wancho"],
    [(0x1E2C0, 0x1E2F9, 1), (0x1E2FF, 0x1E2FF, 1)]),
   (["wara", "warangciti"],
    [(0x118A0, 0x118F2, 1), (0x118FF, 0x118FF, 1)]),
   (["yezi", "yezidi"],
    [(0x10E80, 0x10EA9, 1), (0x10EAB, 0x10EAD, 1), (0x10EB0, 0x10EB1, 1)]),
   (["yiii", "yi"],
    [(0xA000, 0xA48C, 1), (0xA490, 0xA4C6, 1)]),
   (["zanb", "zanabazarsquare"],
    [(0x11A00, 0x11A47, 1)])]

end Inlay.Unicode.Table
