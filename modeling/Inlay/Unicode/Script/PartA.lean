/-
**Scripts, from Adlam to Gothic.**

Each entry gives a script's names in loose form (lower case, without separators) and the code points
that carry the script, as runs in increasing order.
-/
import Inlay.Unicode.Runs

set_option autoImplicit false

namespace Inlay.Unicode.Table

/-- The scripts of this part of the table, by name. -/
def scriptsA : List (List String × Runs) :=
  [(["adlm", "adlam"],
    [(0x1E900, 0x1E94B, 1), (0x1E950, 0x1E959, 1), (0x1E95E, 0x1E95F, 1)]),
   (["ahom"],
    [(0x11700, 0x1171A, 1), (0x1171D, 0x1172B, 1), (0x11730, 0x11746, 1)]),
   (["hluw", "anatolianhieroglyphs"],
    [(0x14400, 0x14646, 1)]),
   (["arab", "arabic"],
    [(0x600, 0x604, 1), (0x606, 0x60B, 1), (0x60D, 0x61A, 1), (0x61C, 0x61E, 1),
     (0x620, 0x63F, 1), (0x641, 0x64A, 1), (0x656, 0x66F, 1), (0x671, 0x6DC, 1),
     (0x6DE, 0x6FF, 1), (0x750, 0x77F, 1), (0x870, 0x891, 1), (0x897, 0x8E1, 1),
     (0x8E3, 0x8FF, 1), (0xFB50, 0xFD3D, 1), (0xFD40, 0xFDCF, 1), (0xFDF0, 0xFDFF, 1),
     (0xFE70, 0xFE74, 1), (0xFE76, 0xFEFC, 1), (0x10E60, 0x10E7E, 1), (0x10EC2, 0x10EC7, 1),
     (0x10ED0, 0x10ED8, 1), (0x10EFA, 0x10EFF, 1), (0x1EE00, 0x1EE03, 1), (0x1EE05, 0x1EE1F, 1),
     (0x1EE21, 0x1EE22, 1), (0x1EE24, 0x1EE24, 1), (0x1EE27, 0x1EE27, 1), (0x1EE29, 0x1EE32, 1),
     (0x1EE34, 0x1EE37, 1), (0x1EE39, 0x1EE39, 1), (0x1EE3B, 0x1EE3B, 1), (0x1EE42, 0x1EE42, 1),
     (0x1EE47, 0x1EE47, 1), (0x1EE49, 0x1EE49, 1), (0x1EE4B, 0x1EE4B, 1), (0x1EE4D, 0x1EE4F, 1),
     (0x1EE51, 0x1EE52, 1), (0x1EE54, 0x1EE54, 1), (0x1EE57, 0x1EE57, 1), (0x1EE59, 0x1EE59, 1),
     (0x1EE5B, 0x1EE5B, 1), (0x1EE5D, 0x1EE5D, 1), (0x1EE5F, 0x1EE5F, 1), (0x1EE61, 0x1EE62, 1),
     (0x1EE64, 0x1EE64, 1), (0x1EE67, 0x1EE6A, 1), (0x1EE6C, 0x1EE72, 1), (0x1EE74, 0x1EE77, 1),
     (0x1EE79, 0x1EE7C, 1), (0x1EE7E, 0x1EE7E, 1), (0x1EE80, 0x1EE89, 1), (0x1EE8B, 0x1EE9B, 1),
     (0x1EEA1, 0x1EEA3, 1), (0x1EEA5, 0x1EEA9, 1), (0x1EEAB, 0x1EEBB, 1), (0x1EEF0, 0x1EEF1, 1)]),
   (["armn", "armenian"],
    [(0x531, 0x556, 1), (0x559, 0x58A, 1), (0x58D, 0x58F, 1), (0xFB13, 0xFB17, 1)]),
   (["avst", "avestan"],
    [(0x10B00, 0x10B35, 1), (0x10B39, 0x10B3F, 1)]),
   (["bali", "balinese"],
    [(0x1B00, 0x1B4C, 1), (0x1B4E, 0x1B7F, 1)]),
   (["bamu", "bamum"],
    [(0xA6A0, 0xA6F7, 1), (0x16800, 0x16A38, 1)]),
   (["bass", "bassavah"],
    [(0x16AD0, 0x16AED, 1), (0x16AF0, 0x16AF5, 1)]),
   (["batk", "batak"],
    [(0x1BC0, 0x1BF3, 1), (0x1BFC, 0x1BFF, 1)]),
   (["beng", "bengali"],
    [(0x980, 0x983, 1), (0x985, 0x98C, 1), (0x98F, 0x990, 1), (0x993, 0x9A8, 1),
     (0x9AA, 0x9B0, 1), (0x9B2, 0x9B2, 1), (0x9B6, 0x9B9, 1), (0x9BC, 0x9C4, 1),
     (0x9C7, 0x9C8, 1), (0x9CB, 0x9CE, 1), (0x9D7, 0x9D7, 1), (0x9DC, 0x9DD, 1),
     (0x9DF, 0x9E3, 1), (0x9E6, 0x9FE, 1)]),
   (["bhks", "bhaiksuki"],
    [(0x11C00, 0x11C08, 1), (0x11C0A, 0x11C36, 1), (0x11C38, 0x11C45, 1), (0x11C50, 0x11C6C, 1)]),
   (["bopo", "bopomofo"],
    [(0x2EA, 0x2EB, 1), (0x3105, 0x312F, 1), (0x31A0, 0x31BF, 1)]),
   (["brah", "brahmi"],
    [(0x11000, 0x1104D, 1), (0x11052, 0x11075, 1), (0x1107F, 0x1107F, 1)]),
   (["brai", "braille"],
    [(0x2800, 0x28FF, 1)]),
   (["bugi", "buginese"],
    [(0x1A00, 0x1A1B, 1), (0x1A1E, 0x1A1F, 1)]),
   (["buhd", "buhid"],
    [(0x1740, 0x1753, 1)]),
   (["cans", "canadianaboriginal"],
    [(0x1400, 0x167F, 1), (0x18B0, 0x18F5, 1), (0x11AB0, 0x11ABF, 1)]),
   (["cari", "carian"],
    [(0x102A0, 0x102D0, 1)]),
   (["aghb", "caucasianalbanian"],
    [(0x10530, 0x10563, 1), (0x1056F, 0x1056F, 1)]),
   (["cakm", "chakma"],
    [(0x11100, 0x11134, 1), (0x11136, 0x11147, 1)]),
   (["cham"],
    [(0xAA00, 0xAA36, 1), (0xAA40, 0xAA4D, 1), (0xAA50, 0xAA59, 1), (0xAA5C, 0xAA5F, 1)]),
   (["cher", "cherokee"],
    [(0x13A0, 0x13F5, 1), (0x13F8, 0x13FD, 1), (0xAB70, 0xABBF, 1)]),
   (["chrs", "chorasmian"],
    [(0x10FB0, 0x10FCB, 1)]),
   (["zyyy", "common"],
    [(0x0, 0x40, 1), (0x5B, 0x60, 1), (0x7B, 0xA9, 1), (0xAB, 0xB9, 1), (0xBB, 0xBF, 1),
     (0xD7, 0xD7, 1), (0xF7, 0xF7, 1), (0x2B9, 0x2DF, 1), (0x2E5, 0x2E9, 1), (0x2EC, 0x2FF, 1),
     (0x374, 0x374, 1), (0x37E, 0x37E, 1), (0x385, 0x385, 1), (0x387, 0x387, 1),
     (0x605, 0x605, 1), (0x60C, 0x60C, 1), (0x61B, 0x61B, 1), (0x61F, 0x61F, 1),
     (0x640, 0x640, 1), (0x6DD, 0x6DD, 1), (0x8E2, 0x8E2, 1), (0x964, 0x965, 1),
     (0xE3F, 0xE3F, 1), (0xFD5, 0xFD8, 1), (0x10FB, 0x10FB, 1), (0x16EB, 0x16ED, 1),
     (0x1735, 0x1736, 1), (0x1802, 0x1803, 1), (0x1805, 0x1805, 1), (0x1CD3, 0x1CD3, 1),
     (0x1CE1, 0x1CE1, 1), (0x1CE9, 0x1CEC, 1), (0x1CEE, 0x1CF3, 1), (0x1CF5, 0x1CF7, 1),
     (0x1CFA, 0x1CFA, 1), (0x2000, 0x200B, 1), (0x200E, 0x2064, 1), (0x2066, 0x2070, 1),
     (0x2074, 0x207E, 1), (0x2080, 0x208E, 1), (0x20A0, 0x20C1, 1), (0x2100, 0x2125, 1),
     (0x2127, 0x2129, 1), (0x212C, 0x2131, 1), (0x2133, 0x214D, 1), (0x214F, 0x215F, 1),
     (0x2189, 0x218B, 1), (0x2190, 0x2429, 1), (0x2440, 0x244A, 1), (0x2460, 0x27FF, 1),
     (0x2900, 0x2B73, 1), (0x2B76, 0x2BFF, 1), (0x2E00, 0x2E5D, 1), (0x2FF0, 0x3004, 1),
     (0x3006, 0x3006, 1), (0x3008, 0x3020, 1), (0x3030, 0x3037, 1), (0x303C, 0x303F, 1),
     (0x309B, 0x309C, 1), (0x30A0, 0x30A0, 1), (0x30FB, 0x30FC, 1), (0x3190, 0x319F, 1),
     (0x31C0, 0x31E5, 1), (0x31EF, 0x31EF, 1), (0x3220, 0x325F, 1), (0x327F, 0x32CF, 1),
     (0x32FF, 0x32FF, 1), (0x3358, 0x33FF, 1), (0x4DC0, 0x4DFF, 1), (0xA700, 0xA721, 1),
     (0xA788, 0xA78A, 1), (0xA830, 0xA839, 1), (0xA92E, 0xA92E, 1), (0xA9CF, 0xA9CF, 1),
     (0xAB5B, 0xAB5B, 1), (0xAB6A, 0xAB6B, 1), (0xFD3E, 0xFD3F, 1), (0xFE10, 0xFE19, 1),
     (0xFE30, 0xFE52, 1), (0xFE54, 0xFE66, 1), (0xFE68, 0xFE6B, 1), (0xFEFF, 0xFEFF, 1),
     (0xFF01, 0xFF20, 1), (0xFF3B, 0xFF40, 1), (0xFF5B, 0xFF65, 1), (0xFF70, 0xFF70, 1),
     (0xFF9E, 0xFF9F, 1), (0xFFE0, 0xFFE6, 1), (0xFFE8, 0xFFEE, 1), (0xFFF9, 0xFFFD, 1),
     (0x10100, 0x10102, 1), (0x10107, 0x10133, 1), (0x10137, 0x1013F, 1), (0x10190, 0x1019C, 1),
     (0x101D0, 0x101FC, 1), (0x102E1, 0x102FB, 1), (0x1BCA0, 0x1BCA3, 1), (0x1CC00, 0x1CCFC, 1),
     (0x1CD00, 0x1CEB3, 1), (0x1CEBA, 0x1CED0, 1), (0x1CEE0, 0x1CEF0, 1), (0x1CF50, 0x1CFC3, 1),
     (0x1D000, 0x1D0F5, 1), (0x1D100, 0x1D126, 1), (0x1D129, 0x1D166, 1), (0x1D16A, 0x1D17A, 1),
     (0x1D183, 0x1D184, 1), (0x1D18C, 0x1D1A9, 1), (0x1D1AE, 0x1D1EA, 1), (0x1D2C0, 0x1D2D3, 1),
     (0x1D2E0, 0x1D2F3, 1), (0x1D300, 0x1D356, 1), (0x1D360, 0x1D378, 1), (0x1D400, 0x1D454, 1),
     (0x1D456, 0x1D49C, 1), (0x1D49E, 0x1D49F, 1), (0x1D4A2, 0x1D4A2, 1), (0x1D4A5, 0x1D4A6, 1),
     (0x1D4A9, 0x1D4AC, 1), (0x1D4AE, 0x1D4B9, 1), (0x1D4BB, 0x1D4BB, 1), (0x1D4BD, 0x1D4C3, 1),
     (0x1D4C5, 0x1D505, 1), (0x1D507, 0x1D50A, 1), (0x1D50D, 0x1D514, 1), (0x1D516, 0x1D51C, 1),
     (0x1D51E, 0x1D539, 1), (0x1D53B, 0x1D53E, 1), (0x1D540, 0x1D544, 1), (0x1D546, 0x1D546, 1),
     (0x1D54A, 0x1D550, 1), (0x1D552, 0x1D6A5, 1), (0x1D6A8, 0x1D7CB, 1), (0x1D7CE, 0x1D7FF, 1),
     (0x1EC71, 0x1ECB4, 1), (0x1ED01, 0x1ED3D, 1), (0x1F000, 0x1F02B, 1), (0x1F030, 0x1F093, 1),
     (0x1F0A0, 0x1F0AE, 1), (0x1F0B1, 0x1F0BF, 1), (0x1F0C1, 0x1F0CF, 1), (0x1F0D1, 0x1F0F5, 1),
     (0x1F100, 0x1F1AD, 1), (0x1F1E6, 0x1F1FF, 1), (0x1F201, 0x1F202, 1), (0x1F210, 0x1F23B, 1),
     (0x1F240, 0x1F248, 1), (0x1F250, 0x1F251, 1), (0x1F260, 0x1F265, 1), (0x1F300, 0x1F6D8, 1),
     (0x1F6DC, 0x1F6EC, 1), (0x1F6F0, 0x1F6FC, 1), (0x1F700, 0x1F7D9, 1), (0x1F7E0, 0x1F7EB, 1),
     (0x1F7F0, 0x1F7F0, 1), (0x1F800, 0x1F80B, 1), (0x1F810, 0x1F847, 1), (0x1F850, 0x1F859, 1),
     (0x1F860, 0x1F887, 1), (0x1F890, 0x1F8AD, 1), (0x1F8B0, 0x1F8BB, 1), (0x1F8C0, 0x1F8C1, 1),
     (0x1F8D0, 0x1F8D8, 1), (0x1F900, 0x1FA57, 1), (0x1FA60, 0x1FA6D, 1), (0x1FA70, 0x1FA7C, 1),
     (0x1FA80, 0x1FA8A, 1), (0x1FA8E, 0x1FAC6, 1), (0x1FAC8, 0x1FAC8, 1), (0x1FACD, 0x1FADC, 1),
     (0x1FADF, 0x1FAEA, 1), (0x1FAEF, 0x1FAF8, 1), (0x1FB00, 0x1FB92, 1), (0x1FB94, 0x1FBFA, 1),
     (0xE0001, 0xE0001, 1), (0xE0020, 0xE007F, 1)]),
   (["copt", "coptic", "qaac"],
    [(0x3E2, 0x3EF, 1), (0x2C80, 0x2CF3, 1), (0x2CF9, 0x2CFF, 1)]),
   (["xsux", "cuneiform"],
    [(0x12000, 0x12399, 1), (0x12400, 0x1246E, 1), (0x12470, 0x12474, 1), (0x12480, 0x12543, 1)]),
   (["cprt", "cypriot"],
    [(0x10800, 0x10805, 1), (0x10808, 0x10808, 1), (0x1080A, 0x10835, 1), (0x10837, 0x10838, 1),
     (0x1083C, 0x1083C, 1), (0x1083F, 0x1083F, 1)]),
   (["cpmn", "cyprominoan"],
    [(0x12F90, 0x12FF2, 1)]),
   (["cyrl", "cyrillic"],
    [(0x400, 0x484, 1), (0x487, 0x52F, 1), (0x1C80, 0x1C8A, 1), (0x1D2B, 0x1D2B, 1),
     (0x1D78, 0x1D78, 1), (0x2DE0, 0x2DFF, 1), (0xA640, 0xA69F, 1), (0xFE2E, 0xFE2F, 1),
     (0x1E030, 0x1E06D, 1), (0x1E08F, 0x1E08F, 1)]),
   (["dsrt", "deseret"],
    [(0x10400, 0x1044F, 1)]),
   (["deva", "devanagari"],
    [(0x900, 0x950, 1), (0x955, 0x963, 1), (0x966, 0x97F, 1), (0xA8E0, 0xA8FF, 1),
     (0x11B00, 0x11B09, 1)]),
   (["diak", "divesakuru"],
    [(0x11900, 0x11906, 1), (0x11909, 0x11909, 1), (0x1190C, 0x11913, 1), (0x11915, 0x11916, 1),
     (0x11918, 0x11935, 1), (0x11937, 0x11938, 1), (0x1193B, 0x11946, 1), (0x11950, 0x11959, 1)]),
   (["dogr", "dogra"],
    [(0x11800, 0x1183B, 1)]),
   (["dupl", "duployan"],
    [(0x1BC00, 0x1BC6A, 1), (0x1BC70, 0x1BC7C, 1), (0x1BC80, 0x1BC88, 1), (0x1BC90, 0x1BC99, 1),
     (0x1BC9C, 0x1BC9F, 1)]),
   (["egyp", "egyptianhieroglyphs"],
    [(0x13000, 0x13455, 1), (0x13460, 0x143FA, 1)]),
   (["elba", "elbasan"],
    [(0x10500, 0x10527, 1)]),
   (["elym", "elymaic"],
    [(0x10FE0, 0x10FF6, 1)]),
   (["ethi", "ethiopic"],
    [(0x1200, 0x1248, 1), (0x124A, 0x124D, 1), (0x1250, 0x1256, 1), (0x1258, 0x1258, 1),
     (0x125A, 0x125D, 1), (0x1260, 0x1288, 1), (0x128A, 0x128D, 1), (0x1290, 0x12B0, 1),
     (0x12B2, 0x12B5, 1), (0x12B8, 0x12BE, 1), (0x12C0, 0x12C0, 1), (0x12C2, 0x12C5, 1),
     (0x12C8, 0x12D6, 1), (0x12D8, 0x1310, 1), (0x1312, 0x1315, 1), (0x1318, 0x135A, 1),
     (0x135D, 0x137C, 1), (0x1380, 0x1399, 1), (0x2D80, 0x2D96, 1), (0x2DA0, 0x2DA6, 1),
     (0x2DA8, 0x2DAE, 1), (0x2DB0, 0x2DB6, 1), (0x2DB8, 0x2DBE, 1), (0x2DC0, 0x2DC6, 1),
     (0x2DC8, 0x2DCE, 1), (0x2DD0, 0x2DD6, 1), (0x2DD8, 0x2DDE, 1), (0xAB01, 0xAB06, 1),
     (0xAB09, 0xAB0E, 1), (0xAB11, 0xAB16, 1), (0xAB20, 0xAB26, 1), (0xAB28, 0xAB2E, 1),
     (0x1E7E0, 0x1E7E6, 1), (0x1E7E8, 0x1E7EB, 1), (0x1E7ED, 0x1E7EE, 1), (0x1E7F0, 0x1E7FE, 1)]),
   (["gara", "garay"],
    [(0x10D40, 0x10D65, 1), (0x10D69, 0x10D85, 1), (0x10D8E, 0x10D8F, 1)]),
   (["geor", "georgian"],
    [(0x10A0, 0x10C5, 1), (0x10C7, 0x10C7, 1), (0x10CD, 0x10CD, 1), (0x10D0, 0x10FA, 1),
     (0x10FC, 0x10FF, 1), (0x1C90, 0x1CBA, 1), (0x1CBD, 0x1CBF, 1), (0x2D00, 0x2D25, 1),
     (0x2D27, 0x2D27, 1), (0x2D2D, 0x2D2D, 1)]),
   (["glag", "glagolitic"],
    [(0x2C00, 0x2C5F, 1), (0x1E000, 0x1E006, 1), (0x1E008, 0x1E018, 1), (0x1E01B, 0x1E021, 1),
     (0x1E023, 0x1E024, 1), (0x1E026, 0x1E02A, 1)]),
   (["goth", "gothic"],
    [(0x10330, 0x1034A, 1)])]

end Inlay.Unicode.Table
