/-
**Scripts, from Grantha to Mende Kikakui.**

Each entry gives a script's names in loose form (lower case, without separators) and the code points
that carry the script, as runs in increasing order.
-/
import Inlay.Unicode.Runs

set_option autoImplicit false

namespace Inlay.Unicode.Table

/-- The scripts of this part of the table, by name. -/
def scriptsB : List (List String × Runs) :=
  [(["gran", "grantha"],
    [(0x11300, 0x11303, 1), (0x11305, 0x1130C, 1), (0x1130F, 0x11310, 1), (0x11313, 0x11328, 1),
     (0x1132A, 0x11330, 1), (0x11332, 0x11333, 1), (0x11335, 0x11339, 1), (0x1133C, 0x11344, 1),
     (0x11347, 0x11348, 1), (0x1134B, 0x1134D, 1), (0x11350, 0x11350, 1), (0x11357, 0x11357, 1),
     (0x1135D, 0x11363, 1), (0x11366, 0x1136C, 1), (0x11370, 0x11374, 1)]),
   (["grek", "greek"],
    [(0x370, 0x373, 1), (0x375, 0x377, 1), (0x37A, 0x37D, 1), (0x37F, 0x37F, 1),
     (0x384, 0x384, 1), (0x386, 0x386, 1), (0x388, 0x38A, 1), (0x38C, 0x38C, 1),
     (0x38E, 0x3A1, 1), (0x3A3, 0x3E1, 1), (0x3F0, 0x3FF, 1), (0x1D26, 0x1D2A, 1),
     (0x1D5D, 0x1D61, 1), (0x1D66, 0x1D6A, 1), (0x1DBF, 0x1DBF, 1), (0x1F00, 0x1F15, 1),
     (0x1F18, 0x1F1D, 1), (0x1F20, 0x1F45, 1), (0x1F48, 0x1F4D, 1), (0x1F50, 0x1F57, 1),
     (0x1F59, 0x1F59, 1), (0x1F5B, 0x1F5B, 1), (0x1F5D, 0x1F5D, 1), (0x1F5F, 0x1F7D, 1),
     (0x1F80, 0x1FB4, 1), (0x1FB6, 0x1FC4, 1), (0x1FC6, 0x1FD3, 1), (0x1FD6, 0x1FDB, 1),
     (0x1FDD, 0x1FEF, 1), (0x1FF2, 0x1FF4, 1), (0x1FF6, 0x1FFE, 1), (0x2126, 0x2126, 1),
     (0xAB65, 0xAB65, 1), (0x10140, 0x1018E, 1), (0x101A0, 0x101A0, 1), (0x1D200, 0x1D245, 1)]),
   (["gujr", "gujarati"],
    [(0xA81, 0xA83, 1), (0xA85, 0xA8D, 1), (0xA8F, 0xA91, 1), (0xA93, 0xAA8, 1),
     (0xAAA, 0xAB0, 1), (0xAB2, 0xAB3, 1), (0xAB5, 0xAB9, 1), (0xABC, 0xAC5, 1),
     (0xAC7, 0xAC9, 1), (0xACB, 0xACD, 1), (0xAD0, 0xAD0, 1), (0xAE0, 0xAE3, 1),
     (0xAE6, 0xAF1, 1), (0xAF9, 0xAFF, 1)]),
   (["gong", "gunjalagondi"],
    [(0x11D60, 0x11D65, 1), (0x11D67, 0x11D68, 1), (0x11D6A, 0x11D8E, 1), (0x11D90, 0x11D91, 1),
     (0x11D93, 0x11D98, 1), (0x11DA0, 0x11DA9, 1)]),
   (["guru", "gurmukhi"],
    [(0xA01, 0xA03, 1), (0xA05, 0xA0A, 1), (0xA0F, 0xA10, 1), (0xA13, 0xA28, 1),
     (0xA2A, 0xA30, 1), (0xA32, 0xA33, 1), (0xA35, 0xA36, 1), (0xA38, 0xA39, 1),
     (0xA3C, 0xA3C, 1), (0xA3E, 0xA42, 1), (0xA47, 0xA48, 1), (0xA4B, 0xA4D, 1),
     (0xA51, 0xA51, 1), (0xA59, 0xA5C, 1), (0xA5E, 0xA5E, 1), (0xA66, 0xA76, 1)]),
   (["gukh", "gurungkhema"],
    [(0x16100, 0x16139, 1)]),
   (["hani", "han"],
    [(0x2E80, 0x2E99, 1), (0x2E9B, 0x2EF3, 1), (0x2F00, 0x2FD5, 1), (0x3005, 0x3005, 1),
     (0x3007, 0x3007, 1), (0x3021, 0x3029, 1), (0x3038, 0x303B, 1), (0x3400, 0x4DBF, 1),
     (0x4E00, 0x9FFF, 1), (0xF900, 0xFA6D, 1), (0xFA70, 0xFAD9, 1), (0x16FE2, 0x16FE3, 1),
     (0x16FF0, 0x16FF6, 1), (0x20000, 0x2A6DF, 1), (0x2A700, 0x2B81D, 1), (0x2B820, 0x2CEAD, 1),
     (0x2CEB0, 0x2EBE0, 1), (0x2EBF0, 0x2EE5D, 1), (0x2F800, 0x2FA1D, 1), (0x30000, 0x3134A, 1),
     (0x31350, 0x33479, 1)]),
   (["hang", "hangul"],
    [(0x1100, 0x11FF, 1), (0x302E, 0x302F, 1), (0x3131, 0x318E, 1), (0x3200, 0x321E, 1),
     (0x3260, 0x327E, 1), (0xA960, 0xA97C, 1), (0xAC00, 0xD7A3, 1), (0xD7B0, 0xD7C6, 1),
     (0xD7CB, 0xD7FB, 1), (0xFFA0, 0xFFBE, 1), (0xFFC2, 0xFFC7, 1), (0xFFCA, 0xFFCF, 1),
     (0xFFD2, 0xFFD7, 1), (0xFFDA, 0xFFDC, 1)]),
   (["rohg", "hanifirohingya"],
    [(0x10D00, 0x10D27, 1), (0x10D30, 0x10D39, 1)]),
   (["hano", "hanunoo"],
    [(0x1720, 0x1734, 1)]),
   (["hatr", "hatran"],
    [(0x108E0, 0x108F2, 1), (0x108F4, 0x108F5, 1), (0x108FB, 0x108FF, 1)]),
   (["hebr", "hebrew"],
    [(0x591, 0x5C7, 1), (0x5D0, 0x5EA, 1), (0x5EF, 0x5F4, 1), (0xFB1D, 0xFB36, 1),
     (0xFB38, 0xFB3C, 1), (0xFB3E, 0xFB3E, 1), (0xFB40, 0xFB41, 1), (0xFB43, 0xFB44, 1),
     (0xFB46, 0xFB4F, 1)]),
   (["hira", "hiragana"],
    [(0x3041, 0x3096, 1), (0x309D, 0x309F, 1), (0x1B001, 0x1B11F, 1), (0x1B132, 0x1B132, 1),
     (0x1B150, 0x1B152, 1), (0x1F200, 0x1F200, 1)]),
   (["armi", "imperialaramaic"],
    [(0x10840, 0x10855, 1), (0x10857, 0x1085F, 1)]),
   (["zinh", "inherited", "qaai"],
    [(0x300, 0x36F, 1), (0x485, 0x486, 1), (0x64B, 0x655, 1), (0x670, 0x670, 1),
     (0x951, 0x954, 1), (0x1AB0, 0x1ADD, 1), (0x1AE0, 0x1AEB, 1), (0x1CD0, 0x1CD2, 1),
     (0x1CD4, 0x1CE0, 1), (0x1CE2, 0x1CE8, 1), (0x1CED, 0x1CED, 1), (0x1CF4, 0x1CF4, 1),
     (0x1CF8, 0x1CF9, 1), (0x1DC0, 0x1DFF, 1), (0x200C, 0x200D, 1), (0x20D0, 0x20F0, 1),
     (0x302A, 0x302D, 1), (0x3099, 0x309A, 1), (0xFE00, 0xFE0F, 1), (0xFE20, 0xFE2D, 1),
     (0x101FD, 0x101FD, 1), (0x102E0, 0x102E0, 1), (0x1133B, 0x1133B, 1), (0x1CF00, 0x1CF2D, 1),
     (0x1CF30, 0x1CF46, 1), (0x1D167, 0x1D169, 1), (0x1D17B, 0x1D182, 1), (0x1D185, 0x1D18B, 1),
     (0x1D1AA, 0x1D1AD, 1), (0xE0100, 0xE01EF, 1)]),
   (["phli", "inscriptionalpahlavi"],
    [(0x10B60, 0x10B72, 1), (0x10B78, 0x10B7F, 1)]),
   (["prti", "inscriptionalparthian"],
    [(0x10B40, 0x10B55, 1), (0x10B58, 0x10B5F, 1)]),
   (["java", "javanese"],
    [(0xA980, 0xA9CD, 1), (0xA9D0, 0xA9D9, 1), (0xA9DE, 0xA9DF, 1)]),
   (["kthi", "kaithi"],
    [(0x11080, 0x110C2, 1), (0x110CD, 0x110CD, 1)]),
   (["knda", "kannada"],
    [(0xC80, 0xC8C, 1), (0xC8E, 0xC90, 1), (0xC92, 0xCA8, 1), (0xCAA, 0xCB3, 1),
     (0xCB5, 0xCB9, 1), (0xCBC, 0xCC4, 1), (0xCC6, 0xCC8, 1), (0xCCA, 0xCCD, 1),
     (0xCD5, 0xCD6, 1), (0xCDC, 0xCDE, 1), (0xCE0, 0xCE3, 1), (0xCE6, 0xCEF, 1),
     (0xCF1, 0xCF3, 1)]),
   (["kana", "katakana"],
    [(0x30A1, 0x30FA, 1), (0x30FD, 0x30FF, 1), (0x31F0, 0x31FF, 1), (0x32D0, 0x32FE, 1),
     (0x3300, 0x3357, 1), (0xFF66, 0xFF6F, 1), (0xFF71, 0xFF9D, 1), (0x1AFF0, 0x1AFF3, 1),
     (0x1AFF5, 0x1AFFB, 1), (0x1AFFD, 0x1AFFE, 1), (0x1B000, 0x1B000, 1), (0x1B120, 0x1B122, 1),
     (0x1B155, 0x1B155, 1), (0x1B164, 0x1B167, 1)]),
   (["kawi"],
    [(0x11F00, 0x11F10, 1), (0x11F12, 0x11F3A, 1), (0x11F3E, 0x11F5A, 1)]),
   (["kali", "kayahli"],
    [(0xA900, 0xA92D, 1), (0xA92F, 0xA92F, 1)]),
   (["khar", "kharoshthi"],
    [(0x10A00, 0x10A03, 1), (0x10A05, 0x10A06, 1), (0x10A0C, 0x10A13, 1), (0x10A15, 0x10A17, 1),
     (0x10A19, 0x10A35, 1), (0x10A38, 0x10A3A, 1), (0x10A3F, 0x10A48, 1), (0x10A50, 0x10A58, 1)]),
   (["kits", "khitansmallscript"],
    [(0x16FE4, 0x16FE4, 1), (0x18B00, 0x18CD5, 1), (0x18CFF, 0x18CFF, 1)]),
   (["khmr", "khmer"],
    [(0x1780, 0x17DD, 1), (0x17E0, 0x17E9, 1), (0x17F0, 0x17F9, 1), (0x19E0, 0x19FF, 1)]),
   (["khoj", "khojki"],
    [(0x11200, 0x11211, 1), (0x11213, 0x11241, 1)]),
   (["sind", "khudawadi"],
    [(0x112B0, 0x112EA, 1), (0x112F0, 0x112F9, 1)]),
   (["krai", "kiratrai"],
    [(0x16D40, 0x16D79, 1)]),
   (["laoo", "lao"],
    [(0xE81, 0xE82, 1), (0xE84, 0xE84, 1), (0xE86, 0xE8A, 1), (0xE8C, 0xEA3, 1),
     (0xEA5, 0xEA5, 1), (0xEA7, 0xEBD, 1), (0xEC0, 0xEC4, 1), (0xEC6, 0xEC6, 1),
     (0xEC8, 0xECE, 1), (0xED0, 0xED9, 1), (0xEDC, 0xEDF, 1)]),
   (["lepc", "lepcha"],
    [(0x1C00, 0x1C37, 1), (0x1C3B, 0x1C49, 1), (0x1C4D, 0x1C4F, 1)]),
   (["limb", "limbu"],
    [(0x1900, 0x191E, 1), (0x1920, 0x192B, 1), (0x1930, 0x193B, 1), (0x1940, 0x1940, 1),
     (0x1944, 0x194F, 1)]),
   (["lina", "lineara"],
    [(0x10600, 0x10736, 1), (0x10740, 0x10755, 1), (0x10760, 0x10767, 1)]),
   (["lisu"],
    [(0xA4D0, 0xA4FF, 1), (0x11FB0, 0x11FB0, 1)]),
   (["lyci", "lycian"],
    [(0x10280, 0x1029C, 1)]),
   (["lydi", "lydian"],
    [(0x10920, 0x10939, 1), (0x1093F, 0x1093F, 1)]),
   (["maka", "makasar"],
    [(0x11EE0, 0x11EF8, 1)]),
   (["mlym", "malayalam"],
    [(0xD00, 0xD0C, 1), (0xD0E, 0xD10, 1), (0xD12, 0xD44, 1), (0xD46, 0xD48, 1),
     (0xD4A, 0xD4F, 1), (0xD54, 0xD63, 1), (0xD66, 0xD7F, 1)]),
   (["mand", "mandaic"],
    [(0x840, 0x85B, 1), (0x85E, 0x85E, 1)]),
   (["mani", "manichaean"],
    [(0x10AC0, 0x10AE6, 1), (0x10AEB, 0x10AF6, 1)]),
   (["medf", "medefaidrin"],
    [(0x16E40, 0x16E9A, 1)]),
   (["mtei", "meeteimayek"],
    [(0xAAE0, 0xAAF6, 1), (0xABC0, 0xABED, 1), (0xABF0, 0xABF9, 1)]),
   (["mend", "mendekikakui"],
    [(0x1E800, 0x1E8C4, 1), (0x1E8C7, 0x1E8D6, 1)])]

end Inlay.Unicode.Table
