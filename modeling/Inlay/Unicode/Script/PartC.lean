/-
**Scripts, from Meroitic Cursive to Rejang.**

Each entry gives a script's names in loose form (lower case, without separators) and the code points
that carry the script, as runs in increasing order.
-/
import Inlay.Unicode.Runs

set_option autoImplicit false

namespace Inlay.Unicode.Table

/-- The scripts of this part of the table, by name. -/
def scriptsC : List (List String × Runs) :=
  [(["merc", "meroiticcursive"],
    [(0x109A0, 0x109B7, 1), (0x109BC, 0x109CF, 1), (0x109D2, 0x109FF, 1)]),
   (["mero", "meroitichieroglyphs"],
    [(0x10980, 0x1099F, 1)]),
   (["plrd", "miao"],
    [(0x16F00, 0x16F4A, 1), (0x16F4F, 0x16F87, 1), (0x16F8F, 0x16F9F, 1)]),
   (["modi"],
    [(0x11600, 0x11644, 1), (0x11650, 0x11659, 1)]),
   (["mong", "mongolian"],
    [(0x1800, 0x1801, 1), (0x1804, 0x1804, 1), (0x1806, 0x1819, 1), (0x1820, 0x1878, 1),
     (0x1880, 0x18AA, 1), (0x11660, 0x1166C, 1)]),
   (["mroo", "mro"],
    [(0x16A40, 0x16A5E, 1), (0x16A60, 0x16A69, 1), (0x16A6E, 0x16A6F, 1)]),
   (["mult", "multani"],
    [(0x11280, 0x11286, 1), (0x11288, 0x11288, 1), (0x1128A, 0x1128D, 1), (0x1128F, 0x1129D, 1),
     (0x1129F, 0x112A9, 1)]),
   (["mymr", "myanmar"],
    [(0x1000, 0x109F, 1), (0xA9E0, 0xA9FE, 1), (0xAA60, 0xAA7F, 1), (0x116D0, 0x116E3, 1)]),
   (["nbat", "nabataean"],
    [(0x10880, 0x1089E, 1), (0x108A7, 0x108AF, 1)]),
   (["nagm", "nagmundari"],
    [(0x1E4D0, 0x1E4F9, 1)]),
   (["nand", "nandinagari"],
    [(0x119A0, 0x119A7, 1), (0x119AA, 0x119D7, 1), (0x119DA, 0x119E4, 1)]),
   (["talu", "newtailue"],
    [(0x1980, 0x19AB, 1), (0x19B0, 0x19C9, 1), (0x19D0, 0x19DA, 1), (0x19DE, 0x19DF, 1)]),
   (["newa"],
    [(0x11400, 0x1145B, 1), (0x1145D, 0x11461, 1)]),
   (["nkoo", "nko"],
    [(0x7C0, 0x7FA, 1), (0x7FD, 0x7FF, 1)]),
   (["nshu", "nushu"],
    [(0x16FE1, 0x16FE1, 1), (0x1B170, 0x1B2FB, 1)]),
   (["hmnp", "nyiakengpuachuehmong"],
    [(0x1E100, 0x1E12C, 1), (0x1E130, 0x1E13D, 1), (0x1E140, 0x1E149, 1), (0x1E14E, 0x1E14F, 1)]),
   (["ogam", "ogham"],
    [(0x1680, 0x169C, 1)]),
   (["olck", "olchiki"],
    [(0x1C50, 0x1C7F, 1)]),
   (["onao", "olonal"],
    [(0x1E5D0, 0x1E5FA, 1), (0x1E5FF, 0x1E5FF, 1)]),
   (["ital", "olditalic"],
    [(0x10300, 0x10323, 1), (0x1032D, 0x1032F, 1)]),
   (["narb", "oldnortharabian"],
    [(0x10A80, 0x10A9F, 1)]),
   (["perm", "oldpermic"],
    [(0x10350, 0x1037A, 1)]),
   (["xpeo", "oldpersian"],
    [(0x103A0, 0x103C3, 1), (0x103C8, 0x103D5, 1)]),
   (["sogo", "oldsogdian"],
    [(0x10F00, 0x10F27, 1)]),
   (["sarb", "oldsoutharabian"],
    [(0x10A60, 0x10A7F, 1)]),
   (["orkh", "oldturkic"],
    [(0x10C00, 0x10C48, 1)]),
   (["ougr", "olduyghur"],
    [(0x10F70, 0x10F89, 1)]),
   (["orya", "oriya"],
    [(0xB01, 0xB03, 1), (0xB05, 0xB0C, 1), (0xB0F, 0xB10, 1), (0xB13, 0xB28, 1),
     (0xB2A, 0xB30, 1), (0xB32, 0xB33, 1), (0xB35, 0xB39, 1), (0xB3C, 0xB44, 1),
     (0xB47, 0xB48, 1), (0xB4B, 0xB4D, 1), (0xB55, 0xB57, 1), (0xB5C, 0xB5D, 1),
     (0xB5F, 0xB63, 1), (0xB66, 0xB77, 1)]),
   (["osge", "osage"],
    [(0x104B0, 0x104D3, 1), (0x104D8, 0x104FB, 1)]),
   (["osma", "osmanya"],
    [(0x10480, 0x1049D, 1), (0x104A0, 0x104A9, 1)]),
   (["hmng", "pahawhhmong"],
    [(0x16B00, 0x16B45, 1), (0x16B50, 0x16B59, 1), (0x16B5B, 0x16B61, 1), (0x16B63, 0x16B77, 1),
     (0x16B7D, 0x16B8F, 1)]),
   (["latn", "latin"],
    [(0x41, 0x5A, 1), (0x61, 0x7A, 1), (0xAA, 0xAA, 1), (0xBA, 0xBA, 1), (0xC0, 0xD6, 1),
     (0xD8, 0xF6, 1), (0xF8, 0x2B8, 1), (0x2E0, 0x2E4, 1), (0x1D00, 0x1D25, 1),
     (0x1D2C, 0x1D5C, 1), (0x1D62, 0x1D65, 1), (0x1D6B, 0x1D77, 1), (0x1D79, 0x1DBE, 1),
     (0x1E00, 0x1EFF, 1), (0x2071, 0x2071, 1), (0x207F, 0x207F, 1), (0x2090, 0x209C, 1),
     (0x212A, 0x212B, 1), (0x2132, 0x2132, 1), (0x214E, 0x214E, 1), (0x2160, 0x2188, 1),
     (0x2C60, 0x2C7F, 1), (0xA722, 0xA787, 1), (0xA78B, 0xA7DC, 1), (0xA7F1, 0xA7FF, 1),
     (0xAB30, 0xAB5A, 1), (0xAB5C, 0xAB64, 1), (0xAB66, 0xAB69, 1), (0xFB00, 0xFB06, 1),
     (0xFF21, 0xFF3A, 1), (0xFF41, 0xFF5A, 1), (0x10780, 0x10785, 1), (0x10787, 0x107B0, 1),
     (0x107B2, 0x107BA, 1), (0x1DF00, 0x1DF1E, 1), (0x1DF25, 0x1DF2A, 1)]),
   (["linb", "linearb"],
    [(0x10000, 0x1000B, 1), (0x1000D, 0x10026, 1), (0x10028, 0x1003A, 1), (0x1003C, 0x1003D, 1),
     (0x1003F, 0x1004D, 1), (0x10050, 0x1005D, 1), (0x10080, 0x100FA, 1)]),
   (["mahj", "mahajani"],
    [(0x11150, 0x11176, 1)]),
   (["marc", "marchen"],
    [(0x11C70, 0x11C8F, 1), (0x11C92, 0x11CA7, 1), (0x11CA9, 0x11CB6, 1)]),
   (["gonm", "masaramgondi"],
    [(0x11D00, 0x11D06, 1), (0x11D08, 0x11D09, 1), (0x11D0B, 0x11D36, 1), (0x11D3A, 0x11D3A, 1),
     (0x11D3C, 0x11D3D, 1), (0x11D3F, 0x11D47, 1), (0x11D50, 0x11D59, 1)]),
   (["hung", "oldhungarian"],
    [(0x10C80, 0x10CB2, 1), (0x10CC0, 0x10CF2, 1), (0x10CFA, 0x10CFF, 1)]),
   (["palm", "palmyrene"],
    [(0x10860, 0x1087F, 1)]),
   (["pauc", "paucinhau"],
    [(0x11AC0, 0x11AF8, 1)]),
   (["phag", "phagspa"],
    [(0xA840, 0xA877, 1)]),
   (["phnx", "phoenician"],
    [(0x10900, 0x1091B, 1), (0x1091F, 0x1091F, 1)]),
   (["phlp", "psalterpahlavi"],
    [(0x10B80, 0x10B91, 1), (0x10B99, 0x10B9C, 1), (0x10BA9, 0x10BAF, 1)]),
   (["rjng", "rejang"],
    [(0xA930, 0xA953, 1), (0xA95F, 0xA95F, 1)])]

end Inlay.Unicode.Table
