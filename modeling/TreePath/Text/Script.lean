/-!
# Scripts

The scripts that characters are written in. The tables go by version 16 of Unicode, by which regular
expressions go; a script is known by its code, and its longer names are written without what does not
matter in a name. Characters of several scripts have the codes `zyyy` and `zinh`.
-/

namespace TreePath

namespace Text

/-- The scripts of the characters up to `U+FFFF`. -/
def basicScriptRuns : List (Nat × Nat × String) :=
   [(0x0, 0x40, "zyyy"), (0x41, 0x5A, "latn"), (0x5B, 0x60, "zyyy"), (0x61, 0x7A, "latn"),
    (0x7B, 0xA9, "zyyy"), (0xAA, 0xAA, "latn"), (0xAB, 0xB9, "zyyy"), (0xBA, 0xBA, "latn"),
    (0xBB, 0xBF, "zyyy"), (0xC0, 0xD6, "latn"), (0xD7, 0xD7, "zyyy"), (0xD8, 0xF6, "latn"),
    (0xF7, 0xF7, "zyyy"), (0xF8, 0x2B8, "latn"), (0x2B9, 0x2DF, "zyyy"), (0x2E0, 0x2E4, "latn"),
    (0x2E5, 0x2E9, "zyyy"), (0x2EA, 0x2EB, "bopo"), (0x2EC, 0x2FF, "zyyy"), (0x300, 0x36F, "zinh"),
    (0x370, 0x373, "grek"), (0x374, 0x374, "zyyy"), (0x375, 0x377, "grek"), (0x37A, 0x37D, "grek"),
    (0x37E, 0x37E, "zyyy"), (0x37F, 0x37F, "grek"), (0x384, 0x384, "grek"), (0x385, 0x385, "zyyy"),
    (0x386, 0x386, "grek"), (0x387, 0x387, "zyyy"), (0x388, 0x38A, "grek"), (0x38C, 0x38C, "grek"),
    (0x38E, 0x3A1, "grek"), (0x3A3, 0x3E1, "grek"), (0x3E2, 0x3EF, "copt"), (0x3F0, 0x3FF, "grek"),
    (0x400, 0x484, "cyrl"), (0x485, 0x486, "zinh"), (0x487, 0x52F, "cyrl"), (0x531, 0x556, "armn"),
    (0x559, 0x58A, "armn"), (0x58D, 0x58F, "armn"), (0x591, 0x5C7, "hebr"), (0x5D0, 0x5EA, "hebr"),
    (0x5EF, 0x5F4, "hebr"), (0x600, 0x604, "arab"), (0x605, 0x605, "zyyy"), (0x606, 0x60B, "arab"),
    (0x60C, 0x60C, "zyyy"), (0x60D, 0x61A, "arab"), (0x61B, 0x61B, "zyyy"), (0x61C, 0x61E, "arab"),
    (0x61F, 0x61F, "zyyy"), (0x620, 0x63F, "arab"), (0x640, 0x640, "zyyy"), (0x641, 0x64A, "arab"),
    (0x64B, 0x655, "zinh"), (0x656, 0x66F, "arab"), (0x670, 0x670, "zinh"), (0x671, 0x6DC, "arab"),
    (0x6DD, 0x6DD, "zyyy"), (0x6DE, 0x6FF, "arab"), (0x700, 0x70D, "syrc"), (0x70F, 0x74A, "syrc"),
    (0x74D, 0x74F, "syrc"), (0x750, 0x77F, "arab"), (0x780, 0x7B1, "thaa"), (0x7C0, 0x7FA, "nkoo"),
    (0x7FD, 0x7FF, "nkoo"), (0x800, 0x82D, "samr"), (0x830, 0x83E, "samr"), (0x840, 0x85B, "mand"),
    (0x85E, 0x85E, "mand"), (0x860, 0x86A, "syrc"), (0x870, 0x88E, "arab"), (0x890, 0x891, "arab"),
    (0x897, 0x8E1, "arab"), (0x8E2, 0x8E2, "zyyy"), (0x8E3, 0x8FF, "arab"), (0x900, 0x950, "deva"),
    (0x951, 0x954, "zinh"), (0x955, 0x963, "deva"), (0x964, 0x965, "zyyy"), (0x966, 0x97F, "deva"),
    (0x980, 0x983, "beng"), (0x985, 0x98C, "beng"), (0x98F, 0x990, "beng"), (0x993, 0x9A8, "beng"),
    (0x9AA, 0x9B0, "beng"), (0x9B2, 0x9B2, "beng"), (0x9B6, 0x9B9, "beng"), (0x9BC, 0x9C4, "beng"),
    (0x9C7, 0x9C8, "beng"), (0x9CB, 0x9CE, "beng"), (0x9D7, 0x9D7, "beng"), (0x9DC, 0x9DD, "beng"),
    (0x9DF, 0x9E3, "beng"), (0x9E6, 0x9FE, "beng"), (0xA01, 0xA03, "guru"), (0xA05, 0xA0A, "guru"),
    (0xA0F, 0xA10, "guru"), (0xA13, 0xA28, "guru"), (0xA2A, 0xA30, "guru"), (0xA32, 0xA33, "guru"),
    (0xA35, 0xA36, "guru"), (0xA38, 0xA39, "guru"), (0xA3C, 0xA3C, "guru"), (0xA3E, 0xA42, "guru"),
    (0xA47, 0xA48, "guru"), (0xA4B, 0xA4D, "guru"), (0xA51, 0xA51, "guru"), (0xA59, 0xA5C, "guru"),
    (0xA5E, 0xA5E, "guru"), (0xA66, 0xA76, "guru"), (0xA81, 0xA83, "gujr"), (0xA85, 0xA8D, "gujr"),
    (0xA8F, 0xA91, "gujr"), (0xA93, 0xAA8, "gujr"), (0xAAA, 0xAB0, "gujr"), (0xAB2, 0xAB3, "gujr"),
    (0xAB5, 0xAB9, "gujr"), (0xABC, 0xAC5, "gujr"), (0xAC7, 0xAC9, "gujr"), (0xACB, 0xACD, "gujr"),
    (0xAD0, 0xAD0, "gujr"), (0xAE0, 0xAE3, "gujr"), (0xAE6, 0xAF1, "gujr"), (0xAF9, 0xAFF, "gujr"),
    (0xB01, 0xB03, "orya"), (0xB05, 0xB0C, "orya"), (0xB0F, 0xB10, "orya"), (0xB13, 0xB28, "orya"),
    (0xB2A, 0xB30, "orya"), (0xB32, 0xB33, "orya"), (0xB35, 0xB39, "orya"), (0xB3C, 0xB44, "orya"),
    (0xB47, 0xB48, "orya"), (0xB4B, 0xB4D, "orya"), (0xB55, 0xB57, "orya"), (0xB5C, 0xB5D, "orya"),
    (0xB5F, 0xB63, "orya"), (0xB66, 0xB77, "orya"), (0xB82, 0xB83, "taml"), (0xB85, 0xB8A, "taml"),
    (0xB8E, 0xB90, "taml"), (0xB92, 0xB95, "taml"), (0xB99, 0xB9A, "taml"), (0xB9C, 0xB9C, "taml"),
    (0xB9E, 0xB9F, "taml"), (0xBA3, 0xBA4, "taml"), (0xBA8, 0xBAA, "taml"), (0xBAE, 0xBB9, "taml"),
    (0xBBE, 0xBC2, "taml"), (0xBC6, 0xBC8, "taml"), (0xBCA, 0xBCD, "taml"), (0xBD0, 0xBD0, "taml"),
    (0xBD7, 0xBD7, "taml"), (0xBE6, 0xBFA, "taml"), (0xC00, 0xC0C, "telu"), (0xC0E, 0xC10, "telu"),
    (0xC12, 0xC28, "telu"), (0xC2A, 0xC39, "telu"), (0xC3C, 0xC44, "telu"), (0xC46, 0xC48, "telu"),
    (0xC4A, 0xC4D, "telu"), (0xC55, 0xC56, "telu"), (0xC58, 0xC5A, "telu"), (0xC5D, 0xC5D, "telu"),
    (0xC60, 0xC63, "telu"), (0xC66, 0xC6F, "telu"), (0xC77, 0xC7F, "telu"), (0xC80, 0xC8C, "knda"),
    (0xC8E, 0xC90, "knda"), (0xC92, 0xCA8, "knda"), (0xCAA, 0xCB3, "knda"), (0xCB5, 0xCB9, "knda"),
    (0xCBC, 0xCC4, "knda"), (0xCC6, 0xCC8, "knda"), (0xCCA, 0xCCD, "knda"), (0xCD5, 0xCD6, "knda"),
    (0xCDD, 0xCDE, "knda"), (0xCE0, 0xCE3, "knda"), (0xCE6, 0xCEF, "knda"), (0xCF1, 0xCF3, "knda"),
    (0xD00, 0xD0C, "mlym"), (0xD0E, 0xD10, "mlym"), (0xD12, 0xD44, "mlym"), (0xD46, 0xD48, "mlym"),
    (0xD4A, 0xD4F, "mlym"), (0xD54, 0xD63, "mlym"), (0xD66, 0xD7F, "mlym"), (0xD81, 0xD83, "sinh"),
    (0xD85, 0xD96, "sinh"), (0xD9A, 0xDB1, "sinh"), (0xDB3, 0xDBB, "sinh"), (0xDBD, 0xDBD, "sinh"),
    (0xDC0, 0xDC6, "sinh"), (0xDCA, 0xDCA, "sinh"), (0xDCF, 0xDD4, "sinh"), (0xDD6, 0xDD6, "sinh"),
    (0xDD8, 0xDDF, "sinh"), (0xDE6, 0xDEF, "sinh"), (0xDF2, 0xDF4, "sinh"), (0xE01, 0xE3A, "thai"),
    (0xE3F, 0xE3F, "zyyy"), (0xE40, 0xE5B, "thai"), (0xE81, 0xE82, "laoo"), (0xE84, 0xE84, "laoo"),
    (0xE86, 0xE8A, "laoo"), (0xE8C, 0xEA3, "laoo"), (0xEA5, 0xEA5, "laoo"), (0xEA7, 0xEBD, "laoo"),
    (0xEC0, 0xEC4, "laoo"), (0xEC6, 0xEC6, "laoo"), (0xEC8, 0xECE, "laoo"), (0xED0, 0xED9, "laoo"),
    (0xEDC, 0xEDF, "laoo"), (0xF00, 0xF47, "tibt"), (0xF49, 0xF6C, "tibt"), (0xF71, 0xF97, "tibt"),
    (0xF99, 0xFBC, "tibt"), (0xFBE, 0xFCC, "tibt"), (0xFCE, 0xFD4, "tibt"), (0xFD5, 0xFD8, "zyyy"),
    (0xFD9, 0xFDA, "tibt"), (0x1000, 0x109F, "mymr"), (0x10A0, 0x10C5, "geor"),
    (0x10C7, 0x10C7, "geor"), (0x10CD, 0x10CD, "geor"), (0x10D0, 0x10FA, "geor"),
    (0x10FB, 0x10FB, "zyyy"), (0x10FC, 0x10FF, "geor"), (0x1100, 0x11FF, "hang"),
    (0x1200, 0x1248, "ethi"), (0x124A, 0x124D, "ethi"), (0x1250, 0x1256, "ethi"),
    (0x1258, 0x1258, "ethi"), (0x125A, 0x125D, "ethi"), (0x1260, 0x1288, "ethi"),
    (0x128A, 0x128D, "ethi"), (0x1290, 0x12B0, "ethi"), (0x12B2, 0x12B5, "ethi"),
    (0x12B8, 0x12BE, "ethi"), (0x12C0, 0x12C0, "ethi"), (0x12C2, 0x12C5, "ethi"),
    (0x12C8, 0x12D6, "ethi"), (0x12D8, 0x1310, "ethi"), (0x1312, 0x1315, "ethi"),
    (0x1318, 0x135A, "ethi"), (0x135D, 0x137C, "ethi"), (0x1380, 0x1399, "ethi"),
    (0x13A0, 0x13F5, "cher"), (0x13F8, 0x13FD, "cher"), (0x1400, 0x167F, "cans"),
    (0x1680, 0x169C, "ogam"), (0x16A0, 0x16EA, "runr"), (0x16EB, 0x16ED, "zyyy"),
    (0x16EE, 0x16F8, "runr"), (0x1700, 0x1715, "tglg"), (0x171F, 0x171F, "tglg"),
    (0x1720, 0x1734, "hano"), (0x1735, 0x1736, "zyyy"), (0x1740, 0x1753, "buhd"),
    (0x1760, 0x176C, "tagb"), (0x176E, 0x1770, "tagb"), (0x1772, 0x1773, "tagb"),
    (0x1780, 0x17DD, "khmr"), (0x17E0, 0x17E9, "khmr"), (0x17F0, 0x17F9, "khmr"),
    (0x1800, 0x1801, "mong"), (0x1802, 0x1803, "zyyy"), (0x1804, 0x1804, "mong"),
    (0x1805, 0x1805, "zyyy"), (0x1806, 0x1819, "mong"), (0x1820, 0x1878, "mong"),
    (0x1880, 0x18AA, "mong"), (0x18B0, 0x18F5, "cans"), (0x1900, 0x191E, "limb"),
    (0x1920, 0x192B, "limb"), (0x1930, 0x193B, "limb"), (0x1940, 0x1940, "limb"),
    (0x1944, 0x194F, "limb"), (0x1950, 0x196D, "tale"), (0x1970, 0x1974, "tale"),
    (0x1980, 0x19AB, "talu"), (0x19B0, 0x19C9, "talu"), (0x19D0, 0x19DA, "talu"),
    (0x19DE, 0x19DF, "talu"), (0x19E0, 0x19FF, "khmr"), (0x1A00, 0x1A1B, "bugi"),
    (0x1A1E, 0x1A1F, "bugi"), (0x1A20, 0x1A5E, "lana"), (0x1A60, 0x1A7C, "lana"),
    (0x1A7F, 0x1A89, "lana"), (0x1A90, 0x1A99, "lana"), (0x1AA0, 0x1AAD, "lana"),
    (0x1AB0, 0x1ACE, "zinh"), (0x1B00, 0x1B4C, "bali"), (0x1B4E, 0x1B7F, "bali"),
    (0x1B80, 0x1BBF, "sund"), (0x1BC0, 0x1BF3, "batk"), (0x1BFC, 0x1BFF, "batk"),
    (0x1C00, 0x1C37, "lepc"), (0x1C3B, 0x1C49, "lepc"), (0x1C4D, 0x1C4F, "lepc"),
    (0x1C50, 0x1C7F, "olck"), (0x1C80, 0x1C8A, "cyrl"), (0x1C90, 0x1CBA, "geor"),
    (0x1CBD, 0x1CBF, "geor"), (0x1CC0, 0x1CC7, "sund"), (0x1CD0, 0x1CD2, "zinh"),
    (0x1CD3, 0x1CD3, "zyyy"), (0x1CD4, 0x1CE0, "zinh"), (0x1CE1, 0x1CE1, "zyyy"),
    (0x1CE2, 0x1CE8, "zinh"), (0x1CE9, 0x1CEC, "zyyy"), (0x1CED, 0x1CED, "zinh"),
    (0x1CEE, 0x1CF3, "zyyy"), (0x1CF4, 0x1CF4, "zinh"), (0x1CF5, 0x1CF7, "zyyy"),
    (0x1CF8, 0x1CF9, "zinh"), (0x1CFA, 0x1CFA, "zyyy"), (0x1D00, 0x1D25, "latn"),
    (0x1D26, 0x1D2A, "grek"), (0x1D2B, 0x1D2B, "cyrl"), (0x1D2C, 0x1D5C, "latn"),
    (0x1D5D, 0x1D61, "grek"), (0x1D62, 0x1D65, "latn"), (0x1D66, 0x1D6A, "grek"),
    (0x1D6B, 0x1D77, "latn"), (0x1D78, 0x1D78, "cyrl"), (0x1D79, 0x1DBE, "latn"),
    (0x1DBF, 0x1DBF, "grek"), (0x1DC0, 0x1DFF, "zinh"), (0x1E00, 0x1EFF, "latn"),
    (0x1F00, 0x1F15, "grek"), (0x1F18, 0x1F1D, "grek"), (0x1F20, 0x1F45, "grek"),
    (0x1F48, 0x1F4D, "grek"), (0x1F50, 0x1F57, "grek"), (0x1F59, 0x1F59, "grek"),
    (0x1F5B, 0x1F5B, "grek"), (0x1F5D, 0x1F5D, "grek"), (0x1F5F, 0x1F7D, "grek"),
    (0x1F80, 0x1FB4, "grek"), (0x1FB6, 0x1FC4, "grek"), (0x1FC6, 0x1FD3, "grek"),
    (0x1FD6, 0x1FDB, "grek"), (0x1FDD, 0x1FEF, "grek"), (0x1FF2, 0x1FF4, "grek"),
    (0x1FF6, 0x1FFE, "grek"), (0x2000, 0x200B, "zyyy"), (0x200C, 0x200D, "zinh"),
    (0x200E, 0x2064, "zyyy"), (0x2066, 0x2070, "zyyy"), (0x2071, 0x2071, "latn"),
    (0x2074, 0x207E, "zyyy"), (0x207F, 0x207F, "latn"), (0x2080, 0x208E, "zyyy"),
    (0x2090, 0x209C, "latn"), (0x20A0, 0x20C0, "zyyy"), (0x20D0, 0x20F0, "zinh"),
    (0x2100, 0x2125, "zyyy"), (0x2126, 0x2126, "grek"), (0x2127, 0x2129, "zyyy"),
    (0x212A, 0x212B, "latn"), (0x212C, 0x2131, "zyyy"), (0x2132, 0x2132, "latn"),
    (0x2133, 0x214D, "zyyy"), (0x214E, 0x214E, "latn"), (0x214F, 0x215F, "zyyy"),
    (0x2160, 0x2188, "latn"), (0x2189, 0x218B, "zyyy"), (0x2190, 0x2429, "zyyy"),
    (0x2440, 0x244A, "zyyy"), (0x2460, 0x27FF, "zyyy"), (0x2800, 0x28FF, "brai"),
    (0x2900, 0x2B73, "zyyy"), (0x2B76, 0x2B95, "zyyy"), (0x2B97, 0x2BFF, "zyyy"),
    (0x2C00, 0x2C5F, "glag"), (0x2C60, 0x2C7F, "latn"), (0x2C80, 0x2CF3, "copt"),
    (0x2CF9, 0x2CFF, "copt"), (0x2D00, 0x2D25, "geor"), (0x2D27, 0x2D27, "geor"),
    (0x2D2D, 0x2D2D, "geor"), (0x2D30, 0x2D67, "tfng"), (0x2D6F, 0x2D70, "tfng"),
    (0x2D7F, 0x2D7F, "tfng"), (0x2D80, 0x2D96, "ethi"), (0x2DA0, 0x2DA6, "ethi"),
    (0x2DA8, 0x2DAE, "ethi"), (0x2DB0, 0x2DB6, "ethi"), (0x2DB8, 0x2DBE, "ethi"),
    (0x2DC0, 0x2DC6, "ethi"), (0x2DC8, 0x2DCE, "ethi"), (0x2DD0, 0x2DD6, "ethi"),
    (0x2DD8, 0x2DDE, "ethi"), (0x2DE0, 0x2DFF, "cyrl"), (0x2E00, 0x2E5D, "zyyy"),
    (0x2E80, 0x2E99, "hani"), (0x2E9B, 0x2EF3, "hani"), (0x2F00, 0x2FD5, "hani"),
    (0x2FF0, 0x3004, "zyyy"), (0x3005, 0x3005, "hani"), (0x3006, 0x3006, "zyyy"),
    (0x3007, 0x3007, "hani"), (0x3008, 0x3020, "zyyy"), (0x3021, 0x3029, "hani"),
    (0x302A, 0x302D, "zinh"), (0x302E, 0x302F, "hang"), (0x3030, 0x3037, "zyyy"),
    (0x3038, 0x303B, "hani"), (0x303C, 0x303F, "zyyy"), (0x3041, 0x3096, "hira"),
    (0x3099, 0x309A, "zinh"), (0x309B, 0x309C, "zyyy"), (0x309D, 0x309F, "hira"),
    (0x30A0, 0x30A0, "zyyy"), (0x30A1, 0x30FA, "kana"), (0x30FB, 0x30FC, "zyyy"),
    (0x30FD, 0x30FF, "kana"), (0x3105, 0x312F, "bopo"), (0x3131, 0x318E, "hang"),
    (0x3190, 0x319F, "zyyy"), (0x31A0, 0x31BF, "bopo"), (0x31C0, 0x31E5, "zyyy"),
    (0x31EF, 0x31EF, "zyyy"), (0x31F0, 0x31FF, "kana"), (0x3200, 0x321E, "hang"),
    (0x3220, 0x325F, "zyyy"), (0x3260, 0x327E, "hang"), (0x327F, 0x32CF, "zyyy"),
    (0x32D0, 0x32FE, "kana"), (0x32FF, 0x32FF, "zyyy"), (0x3300, 0x3357, "kana"),
    (0x3358, 0x33FF, "zyyy"), (0x3400, 0x4DBF, "hani"), (0x4DC0, 0x4DFF, "zyyy"),
    (0x4E00, 0x9FFF, "hani"), (0xA000, 0xA48C, "yiii"), (0xA490, 0xA4C6, "yiii"),
    (0xA4D0, 0xA4FF, "lisu"), (0xA500, 0xA62B, "vaii"), (0xA640, 0xA69F, "cyrl"),
    (0xA6A0, 0xA6F7, "bamu"), (0xA700, 0xA721, "zyyy"), (0xA722, 0xA787, "latn"),
    (0xA788, 0xA78A, "zyyy"), (0xA78B, 0xA7CD, "latn"), (0xA7D0, 0xA7D1, "latn"),
    (0xA7D3, 0xA7D3, "latn"), (0xA7D5, 0xA7DC, "latn"), (0xA7F2, 0xA7FF, "latn"),
    (0xA800, 0xA82C, "sylo"), (0xA830, 0xA839, "zyyy"), (0xA840, 0xA877, "phag"),
    (0xA880, 0xA8C5, "saur"), (0xA8CE, 0xA8D9, "saur"), (0xA8E0, 0xA8FF, "deva"),
    (0xA900, 0xA92D, "kali"), (0xA92E, 0xA92E, "zyyy"), (0xA92F, 0xA92F, "kali"),
    (0xA930, 0xA953, "rjng"), (0xA95F, 0xA95F, "rjng"), (0xA960, 0xA97C, "hang"),
    (0xA980, 0xA9CD, "java"), (0xA9CF, 0xA9CF, "zyyy"), (0xA9D0, 0xA9D9, "java"),
    (0xA9DE, 0xA9DF, "java"), (0xA9E0, 0xA9FE, "mymr"), (0xAA00, 0xAA36, "cham"),
    (0xAA40, 0xAA4D, "cham"), (0xAA50, 0xAA59, "cham"), (0xAA5C, 0xAA5F, "cham"),
    (0xAA60, 0xAA7F, "mymr"), (0xAA80, 0xAAC2, "tavt"), (0xAADB, 0xAADF, "tavt"),
    (0xAAE0, 0xAAF6, "mtei"), (0xAB01, 0xAB06, "ethi"), (0xAB09, 0xAB0E, "ethi"),
    (0xAB11, 0xAB16, "ethi"), (0xAB20, 0xAB26, "ethi"), (0xAB28, 0xAB2E, "ethi"),
    (0xAB30, 0xAB5A, "latn"), (0xAB5B, 0xAB5B, "zyyy"), (0xAB5C, 0xAB64, "latn"),
    (0xAB65, 0xAB65, "grek"), (0xAB66, 0xAB69, "latn"), (0xAB6A, 0xAB6B, "zyyy"),
    (0xAB70, 0xABBF, "cher"), (0xABC0, 0xABED, "mtei"), (0xABF0, 0xABF9, "mtei"),
    (0xAC00, 0xD7A3, "hang"), (0xD7B0, 0xD7C6, "hang"), (0xD7CB, 0xD7FB, "hang"),
    (0xF900, 0xFA6D, "hani"), (0xFA70, 0xFAD9, "hani"), (0xFB00, 0xFB06, "latn"),
    (0xFB13, 0xFB17, "armn"), (0xFB1D, 0xFB36, "hebr"), (0xFB38, 0xFB3C, "hebr"),
    (0xFB3E, 0xFB3E, "hebr"), (0xFB40, 0xFB41, "hebr"), (0xFB43, 0xFB44, "hebr"),
    (0xFB46, 0xFB4F, "hebr"), (0xFB50, 0xFBC2, "arab"), (0xFBD3, 0xFD3D, "arab"),
    (0xFD3E, 0xFD3F, "zyyy"), (0xFD40, 0xFD8F, "arab"), (0xFD92, 0xFDC7, "arab"),
    (0xFDCF, 0xFDCF, "arab"), (0xFDF0, 0xFDFF, "arab"), (0xFE00, 0xFE0F, "zinh"),
    (0xFE10, 0xFE19, "zyyy"), (0xFE20, 0xFE2D, "zinh"), (0xFE2E, 0xFE2F, "cyrl"),
    (0xFE30, 0xFE52, "zyyy"), (0xFE54, 0xFE66, "zyyy"), (0xFE68, 0xFE6B, "zyyy"),
    (0xFE70, 0xFE74, "arab"), (0xFE76, 0xFEFC, "arab"), (0xFEFF, 0xFEFF, "zyyy"),
    (0xFF01, 0xFF20, "zyyy"), (0xFF21, 0xFF3A, "latn"), (0xFF3B, 0xFF40, "zyyy"),
    (0xFF41, 0xFF5A, "latn"), (0xFF5B, 0xFF65, "zyyy"), (0xFF66, 0xFF6F, "kana"),
    (0xFF70, 0xFF70, "zyyy"), (0xFF71, 0xFF9D, "kana"), (0xFF9E, 0xFF9F, "zyyy"),
    (0xFFA0, 0xFFBE, "hang"), (0xFFC2, 0xFFC7, "hang"), (0xFFCA, 0xFFCF, "hang"),
    (0xFFD2, 0xFFD7, "hang"), (0xFFDA, 0xFFDC, "hang"), (0xFFE0, 0xFFE6, "zyyy"),
    (0xFFE8, 0xFFEE, "zyyy"), (0xFFF9, 0xFFFD, "zyyy")]

/-- The scripts of the characters beyond `U+FFFF`. -/
def supplementaryScriptRuns : List (Nat × Nat × String) :=
   [(0x10000, 0x1000B, "linb"), (0x1000D, 0x10026, "linb"), (0x10028, 0x1003A, "linb"),
    (0x1003C, 0x1003D, "linb"), (0x1003F, 0x1004D, "linb"), (0x10050, 0x1005D, "linb"),
    (0x10080, 0x100FA, "linb"), (0x10100, 0x10102, "zyyy"), (0x10107, 0x10133, "zyyy"),
    (0x10137, 0x1013F, "zyyy"), (0x10140, 0x1018E, "grek"), (0x10190, 0x1019C, "zyyy"),
    (0x101A0, 0x101A0, "grek"), (0x101D0, 0x101FC, "zyyy"), (0x101FD, 0x101FD, "zinh"),
    (0x10280, 0x1029C, "lyci"), (0x102A0, 0x102D0, "cari"), (0x102E0, 0x102E0, "zinh"),
    (0x102E1, 0x102FB, "zyyy"), (0x10300, 0x10323, "ital"), (0x1032D, 0x1032F, "ital"),
    (0x10330, 0x1034A, "goth"), (0x10350, 0x1037A, "perm"), (0x10380, 0x1039D, "ugar"),
    (0x1039F, 0x1039F, "ugar"), (0x103A0, 0x103C3, "xpeo"), (0x103C8, 0x103D5, "xpeo"),
    (0x10400, 0x1044F, "dsrt"), (0x10450, 0x1047F, "shaw"), (0x10480, 0x1049D, "osma"),
    (0x104A0, 0x104A9, "osma"), (0x104B0, 0x104D3, "osge"), (0x104D8, 0x104FB, "osge"),
    (0x10500, 0x10527, "elba"), (0x10530, 0x10563, "aghb"), (0x1056F, 0x1056F, "aghb"),
    (0x10570, 0x1057A, "vith"), (0x1057C, 0x1058A, "vith"), (0x1058C, 0x10592, "vith"),
    (0x10594, 0x10595, "vith"), (0x10597, 0x105A1, "vith"), (0x105A3, 0x105B1, "vith"),
    (0x105B3, 0x105B9, "vith"), (0x105BB, 0x105BC, "vith"), (0x105C0, 0x105F3, "todr"),
    (0x10600, 0x10736, "lina"), (0x10740, 0x10755, "lina"), (0x10760, 0x10767, "lina"),
    (0x10780, 0x10785, "latn"), (0x10787, 0x107B0, "latn"), (0x107B2, 0x107BA, "latn"),
    (0x10800, 0x10805, "cprt"), (0x10808, 0x10808, "cprt"), (0x1080A, 0x10835, "cprt"),
    (0x10837, 0x10838, "cprt"), (0x1083C, 0x1083C, "cprt"), (0x1083F, 0x1083F, "cprt"),
    (0x10840, 0x10855, "armi"), (0x10857, 0x1085F, "armi"), (0x10860, 0x1087F, "palm"),
    (0x10880, 0x1089E, "nbat"), (0x108A7, 0x108AF, "nbat"), (0x108E0, 0x108F2, "hatr"),
    (0x108F4, 0x108F5, "hatr"), (0x108FB, 0x108FF, "hatr"), (0x10900, 0x1091B, "phnx"),
    (0x1091F, 0x1091F, "phnx"), (0x10920, 0x10939, "lydi"), (0x1093F, 0x1093F, "lydi"),
    (0x10980, 0x1099F, "mero"), (0x109A0, 0x109B7, "merc"), (0x109BC, 0x109CF, "merc"),
    (0x109D2, 0x109FF, "merc"), (0x10A00, 0x10A03, "khar"), (0x10A05, 0x10A06, "khar"),
    (0x10A0C, 0x10A13, "khar"), (0x10A15, 0x10A17, "khar"), (0x10A19, 0x10A35, "khar"),
    (0x10A38, 0x10A3A, "khar"), (0x10A3F, 0x10A48, "khar"), (0x10A50, 0x10A58, "khar"),
    (0x10A60, 0x10A7F, "sarb"), (0x10A80, 0x10A9F, "narb"), (0x10AC0, 0x10AE6, "mani"),
    (0x10AEB, 0x10AF6, "mani"), (0x10B00, 0x10B35, "avst"), (0x10B39, 0x10B3F, "avst"),
    (0x10B40, 0x10B55, "prti"), (0x10B58, 0x10B5F, "prti"), (0x10B60, 0x10B72, "phli"),
    (0x10B78, 0x10B7F, "phli"), (0x10B80, 0x10B91, "phlp"), (0x10B99, 0x10B9C, "phlp"),
    (0x10BA9, 0x10BAF, "phlp"), (0x10C00, 0x10C48, "orkh"), (0x10C80, 0x10CB2, "hung"),
    (0x10CC0, 0x10CF2, "hung"), (0x10CFA, 0x10CFF, "hung"), (0x10D00, 0x10D27, "rohg"),
    (0x10D30, 0x10D39, "rohg"), (0x10D40, 0x10D65, "gara"), (0x10D69, 0x10D85, "gara"),
    (0x10D8E, 0x10D8F, "gara"), (0x10E60, 0x10E7E, "arab"), (0x10E80, 0x10EA9, "yezi"),
    (0x10EAB, 0x10EAD, "yezi"), (0x10EB0, 0x10EB1, "yezi"), (0x10EC2, 0x10EC4, "arab"),
    (0x10EFC, 0x10EFF, "arab"), (0x10F00, 0x10F27, "sogo"), (0x10F30, 0x10F59, "sogd"),
    (0x10F70, 0x10F89, "ougr"), (0x10FB0, 0x10FCB, "chrs"), (0x10FE0, 0x10FF6, "elym"),
    (0x11000, 0x1104D, "brah"), (0x11052, 0x11075, "brah"), (0x1107F, 0x1107F, "brah"),
    (0x11080, 0x110C2, "kthi"), (0x110CD, 0x110CD, "kthi"), (0x110D0, 0x110E8, "sora"),
    (0x110F0, 0x110F9, "sora"), (0x11100, 0x11134, "cakm"), (0x11136, 0x11147, "cakm"),
    (0x11150, 0x11176, "mahj"), (0x11180, 0x111DF, "shrd"), (0x111E1, 0x111F4, "sinh"),
    (0x11200, 0x11211, "khoj"), (0x11213, 0x11241, "khoj"), (0x11280, 0x11286, "mult"),
    (0x11288, 0x11288, "mult"), (0x1128A, 0x1128D, "mult"), (0x1128F, 0x1129D, "mult"),
    (0x1129F, 0x112A9, "mult"), (0x112B0, 0x112EA, "sind"), (0x112F0, 0x112F9, "sind"),
    (0x11300, 0x11303, "gran"), (0x11305, 0x1130C, "gran"), (0x1130F, 0x11310, "gran"),
    (0x11313, 0x11328, "gran"), (0x1132A, 0x11330, "gran"), (0x11332, 0x11333, "gran"),
    (0x11335, 0x11339, "gran"), (0x1133B, 0x1133B, "zinh"), (0x1133C, 0x11344, "gran"),
    (0x11347, 0x11348, "gran"), (0x1134B, 0x1134D, "gran"), (0x11350, 0x11350, "gran"),
    (0x11357, 0x11357, "gran"), (0x1135D, 0x11363, "gran"), (0x11366, 0x1136C, "gran"),
    (0x11370, 0x11374, "gran"), (0x11380, 0x11389, "tutg"), (0x1138B, 0x1138B, "tutg"),
    (0x1138E, 0x1138E, "tutg"), (0x11390, 0x113B5, "tutg"), (0x113B7, 0x113C0, "tutg"),
    (0x113C2, 0x113C2, "tutg"), (0x113C5, 0x113C5, "tutg"), (0x113C7, 0x113CA, "tutg"),
    (0x113CC, 0x113D5, "tutg"), (0x113D7, 0x113D8, "tutg"), (0x113E1, 0x113E2, "tutg"),
    (0x11400, 0x1145B, "newa"), (0x1145D, 0x11461, "newa"), (0x11480, 0x114C7, "tirh"),
    (0x114D0, 0x114D9, "tirh"), (0x11580, 0x115B5, "sidd"), (0x115B8, 0x115DD, "sidd"),
    (0x11600, 0x11644, "modi"), (0x11650, 0x11659, "modi"), (0x11660, 0x1166C, "mong"),
    (0x11680, 0x116B9, "takr"), (0x116C0, 0x116C9, "takr"), (0x116D0, 0x116E3, "mymr"),
    (0x11700, 0x1171A, "ahom"), (0x1171D, 0x1172B, "ahom"), (0x11730, 0x11746, "ahom"),
    (0x11800, 0x1183B, "dogr"), (0x118A0, 0x118F2, "wara"), (0x118FF, 0x118FF, "wara"),
    (0x11900, 0x11906, "diak"), (0x11909, 0x11909, "diak"), (0x1190C, 0x11913, "diak"),
    (0x11915, 0x11916, "diak"), (0x11918, 0x11935, "diak"), (0x11937, 0x11938, "diak"),
    (0x1193B, 0x11946, "diak"), (0x11950, 0x11959, "diak"), (0x119A0, 0x119A7, "nand"),
    (0x119AA, 0x119D7, "nand"), (0x119DA, 0x119E4, "nand"), (0x11A00, 0x11A47, "zanb"),
    (0x11A50, 0x11AA2, "soyo"), (0x11AB0, 0x11ABF, "cans"), (0x11AC0, 0x11AF8, "pauc"),
    (0x11B00, 0x11B09, "deva"), (0x11BC0, 0x11BE1, "sunu"), (0x11BF0, 0x11BF9, "sunu"),
    (0x11C00, 0x11C08, "bhks"), (0x11C0A, 0x11C36, "bhks"), (0x11C38, 0x11C45, "bhks"),
    (0x11C50, 0x11C6C, "bhks"), (0x11C70, 0x11C8F, "marc"), (0x11C92, 0x11CA7, "marc"),
    (0x11CA9, 0x11CB6, "marc"), (0x11D00, 0x11D06, "gonm"), (0x11D08, 0x11D09, "gonm"),
    (0x11D0B, 0x11D36, "gonm"), (0x11D3A, 0x11D3A, "gonm"), (0x11D3C, 0x11D3D, "gonm"),
    (0x11D3F, 0x11D47, "gonm"), (0x11D50, 0x11D59, "gonm"), (0x11D60, 0x11D65, "gong"),
    (0x11D67, 0x11D68, "gong"), (0x11D6A, 0x11D8E, "gong"), (0x11D90, 0x11D91, "gong"),
    (0x11D93, 0x11D98, "gong"), (0x11DA0, 0x11DA9, "gong"), (0x11EE0, 0x11EF8, "maka"),
    (0x11F00, 0x11F10, "kawi"), (0x11F12, 0x11F3A, "kawi"), (0x11F3E, 0x11F5A, "kawi"),
    (0x11FB0, 0x11FB0, "lisu"), (0x11FC0, 0x11FF1, "taml"), (0x11FFF, 0x11FFF, "taml"),
    (0x12000, 0x12399, "xsux"), (0x12400, 0x1246E, "xsux"), (0x12470, 0x12474, "xsux"),
    (0x12480, 0x12543, "xsux"), (0x12F90, 0x12FF2, "cpmn"), (0x13000, 0x13455, "egyp"),
    (0x13460, 0x143FA, "egyp"), (0x14400, 0x14646, "hluw"), (0x16100, 0x16139, "gukh"),
    (0x16800, 0x16A38, "bamu"), (0x16A40, 0x16A5E, "mroo"), (0x16A60, 0x16A69, "mroo"),
    (0x16A6E, 0x16A6F, "mroo"), (0x16A70, 0x16ABE, "tnsa"), (0x16AC0, 0x16AC9, "tnsa"),
    (0x16AD0, 0x16AED, "bass"), (0x16AF0, 0x16AF5, "bass"), (0x16B00, 0x16B45, "hmng"),
    (0x16B50, 0x16B59, "hmng"), (0x16B5B, 0x16B61, "hmng"), (0x16B63, 0x16B77, "hmng"),
    (0x16B7D, 0x16B8F, "hmng"), (0x16D40, 0x16D79, "krai"), (0x16E40, 0x16E9A, "medf"),
    (0x16F00, 0x16F4A, "plrd"), (0x16F4F, 0x16F87, "plrd"), (0x16F8F, 0x16F9F, "plrd"),
    (0x16FE0, 0x16FE0, "tang"), (0x16FE1, 0x16FE1, "nshu"), (0x16FE2, 0x16FE3, "hani"),
    (0x16FE4, 0x16FE4, "kits"), (0x16FF0, 0x16FF1, "hani"), (0x17000, 0x187F7, "tang"),
    (0x18800, 0x18AFF, "tang"), (0x18B00, 0x18CD5, "kits"), (0x18CFF, 0x18CFF, "kits"),
    (0x18D00, 0x18D08, "tang"), (0x1AFF0, 0x1AFF3, "kana"), (0x1AFF5, 0x1AFFB, "kana"),
    (0x1AFFD, 0x1AFFE, "kana"), (0x1B000, 0x1B000, "kana"), (0x1B001, 0x1B11F, "hira"),
    (0x1B120, 0x1B122, "kana"), (0x1B132, 0x1B132, "hira"), (0x1B150, 0x1B152, "hira"),
    (0x1B155, 0x1B155, "kana"), (0x1B164, 0x1B167, "kana"), (0x1B170, 0x1B2FB, "nshu"),
    (0x1BC00, 0x1BC6A, "dupl"), (0x1BC70, 0x1BC7C, "dupl"), (0x1BC80, 0x1BC88, "dupl"),
    (0x1BC90, 0x1BC99, "dupl"), (0x1BC9C, 0x1BC9F, "dupl"), (0x1BCA0, 0x1BCA3, "zyyy"),
    (0x1CC00, 0x1CCF9, "zyyy"), (0x1CD00, 0x1CEB3, "zyyy"), (0x1CF00, 0x1CF2D, "zinh"),
    (0x1CF30, 0x1CF46, "zinh"), (0x1CF50, 0x1CFC3, "zyyy"), (0x1D000, 0x1D0F5, "zyyy"),
    (0x1D100, 0x1D126, "zyyy"), (0x1D129, 0x1D166, "zyyy"), (0x1D167, 0x1D169, "zinh"),
    (0x1D16A, 0x1D17A, "zyyy"), (0x1D17B, 0x1D182, "zinh"), (0x1D183, 0x1D184, "zyyy"),
    (0x1D185, 0x1D18B, "zinh"), (0x1D18C, 0x1D1A9, "zyyy"), (0x1D1AA, 0x1D1AD, "zinh"),
    (0x1D1AE, 0x1D1EA, "zyyy"), (0x1D200, 0x1D245, "grek"), (0x1D2C0, 0x1D2D3, "zyyy"),
    (0x1D2E0, 0x1D2F3, "zyyy"), (0x1D300, 0x1D356, "zyyy"), (0x1D360, 0x1D378, "zyyy"),
    (0x1D400, 0x1D454, "zyyy"), (0x1D456, 0x1D49C, "zyyy"), (0x1D49E, 0x1D49F, "zyyy"),
    (0x1D4A2, 0x1D4A2, "zyyy"), (0x1D4A5, 0x1D4A6, "zyyy"), (0x1D4A9, 0x1D4AC, "zyyy"),
    (0x1D4AE, 0x1D4B9, "zyyy"), (0x1D4BB, 0x1D4BB, "zyyy"), (0x1D4BD, 0x1D4C3, "zyyy"),
    (0x1D4C5, 0x1D505, "zyyy"), (0x1D507, 0x1D50A, "zyyy"), (0x1D50D, 0x1D514, "zyyy"),
    (0x1D516, 0x1D51C, "zyyy"), (0x1D51E, 0x1D539, "zyyy"), (0x1D53B, 0x1D53E, "zyyy"),
    (0x1D540, 0x1D544, "zyyy"), (0x1D546, 0x1D546, "zyyy"), (0x1D54A, 0x1D550, "zyyy"),
    (0x1D552, 0x1D6A5, "zyyy"), (0x1D6A8, 0x1D7CB, "zyyy"), (0x1D7CE, 0x1D7FF, "zyyy"),
    (0x1D800, 0x1DA8B, "sgnw"), (0x1DA9B, 0x1DA9F, "sgnw"), (0x1DAA1, 0x1DAAF, "sgnw"),
    (0x1DF00, 0x1DF1E, "latn"), (0x1DF25, 0x1DF2A, "latn"), (0x1E000, 0x1E006, "glag"),
    (0x1E008, 0x1E018, "glag"), (0x1E01B, 0x1E021, "glag"), (0x1E023, 0x1E024, "glag"),
    (0x1E026, 0x1E02A, "glag"), (0x1E030, 0x1E06D, "cyrl"), (0x1E08F, 0x1E08F, "cyrl"),
    (0x1E100, 0x1E12C, "hmnp"), (0x1E130, 0x1E13D, "hmnp"), (0x1E140, 0x1E149, "hmnp"),
    (0x1E14E, 0x1E14F, "hmnp"), (0x1E290, 0x1E2AE, "toto"), (0x1E2C0, 0x1E2F9, "wcho"),
    (0x1E2FF, 0x1E2FF, "wcho"), (0x1E4D0, 0x1E4F9, "nagm"), (0x1E5D0, 0x1E5FA, "onao"),
    (0x1E5FF, 0x1E5FF, "onao"), (0x1E7E0, 0x1E7E6, "ethi"), (0x1E7E8, 0x1E7EB, "ethi"),
    (0x1E7ED, 0x1E7EE, "ethi"), (0x1E7F0, 0x1E7FE, "ethi"), (0x1E800, 0x1E8C4, "mend"),
    (0x1E8C7, 0x1E8D6, "mend"), (0x1E900, 0x1E94B, "adlm"), (0x1E950, 0x1E959, "adlm"),
    (0x1E95E, 0x1E95F, "adlm"), (0x1EC71, 0x1ECB4, "zyyy"), (0x1ED01, 0x1ED3D, "zyyy"),
    (0x1EE00, 0x1EE03, "arab"), (0x1EE05, 0x1EE1F, "arab"), (0x1EE21, 0x1EE22, "arab"),
    (0x1EE24, 0x1EE24, "arab"), (0x1EE27, 0x1EE27, "arab"), (0x1EE29, 0x1EE32, "arab"),
    (0x1EE34, 0x1EE37, "arab"), (0x1EE39, 0x1EE39, "arab"), (0x1EE3B, 0x1EE3B, "arab"),
    (0x1EE42, 0x1EE42, "arab"), (0x1EE47, 0x1EE47, "arab"), (0x1EE49, 0x1EE49, "arab"),
    (0x1EE4B, 0x1EE4B, "arab"), (0x1EE4D, 0x1EE4F, "arab"), (0x1EE51, 0x1EE52, "arab"),
    (0x1EE54, 0x1EE54, "arab"), (0x1EE57, 0x1EE57, "arab"), (0x1EE59, 0x1EE59, "arab"),
    (0x1EE5B, 0x1EE5B, "arab"), (0x1EE5D, 0x1EE5D, "arab"), (0x1EE5F, 0x1EE5F, "arab"),
    (0x1EE61, 0x1EE62, "arab"), (0x1EE64, 0x1EE64, "arab"), (0x1EE67, 0x1EE6A, "arab"),
    (0x1EE6C, 0x1EE72, "arab"), (0x1EE74, 0x1EE77, "arab"), (0x1EE79, 0x1EE7C, "arab"),
    (0x1EE7E, 0x1EE7E, "arab"), (0x1EE80, 0x1EE89, "arab"), (0x1EE8B, 0x1EE9B, "arab"),
    (0x1EEA1, 0x1EEA3, "arab"), (0x1EEA5, 0x1EEA9, "arab"), (0x1EEAB, 0x1EEBB, "arab"),
    (0x1EEF0, 0x1EEF1, "arab"), (0x1F000, 0x1F02B, "zyyy"), (0x1F030, 0x1F093, "zyyy"),
    (0x1F0A0, 0x1F0AE, "zyyy"), (0x1F0B1, 0x1F0BF, "zyyy"), (0x1F0C1, 0x1F0CF, "zyyy"),
    (0x1F0D1, 0x1F0F5, "zyyy"), (0x1F100, 0x1F1AD, "zyyy"), (0x1F1E6, 0x1F1FF, "zyyy"),
    (0x1F200, 0x1F200, "hira"), (0x1F201, 0x1F202, "zyyy"), (0x1F210, 0x1F23B, "zyyy"),
    (0x1F240, 0x1F248, "zyyy"), (0x1F250, 0x1F251, "zyyy"), (0x1F260, 0x1F265, "zyyy"),
    (0x1F300, 0x1F6D7, "zyyy"), (0x1F6DC, 0x1F6EC, "zyyy"), (0x1F6F0, 0x1F6FC, "zyyy"),
    (0x1F700, 0x1F776, "zyyy"), (0x1F77B, 0x1F7D9, "zyyy"), (0x1F7E0, 0x1F7EB, "zyyy"),
    (0x1F7F0, 0x1F7F0, "zyyy"), (0x1F800, 0x1F80B, "zyyy"), (0x1F810, 0x1F847, "zyyy"),
    (0x1F850, 0x1F859, "zyyy"), (0x1F860, 0x1F887, "zyyy"), (0x1F890, 0x1F8AD, "zyyy"),
    (0x1F8B0, 0x1F8BB, "zyyy"), (0x1F8C0, 0x1F8C1, "zyyy"), (0x1F900, 0x1FA53, "zyyy"),
    (0x1FA60, 0x1FA6D, "zyyy"), (0x1FA70, 0x1FA7C, "zyyy"), (0x1FA80, 0x1FA89, "zyyy"),
    (0x1FA8F, 0x1FAC6, "zyyy"), (0x1FACE, 0x1FADC, "zyyy"), (0x1FADF, 0x1FAE9, "zyyy"),
    (0x1FAF0, 0x1FAF8, "zyyy"), (0x1FB00, 0x1FB92, "zyyy"), (0x1FB94, 0x1FBF9, "zyyy"),
    (0x20000, 0x2A6DF, "hani"), (0x2A700, 0x2B739, "hani"), (0x2B740, 0x2B81D, "hani"),
    (0x2B820, 0x2CEA1, "hani"), (0x2CEB0, 0x2EBE0, "hani"), (0x2EBF0, 0x2EE5D, "hani"),
    (0x2F800, 0x2FA1D, "hani"), (0x30000, 0x3134A, "hani"), (0x31350, 0x323AF, "hani"),
    (0xE0001, 0xE0001, "zyyy"), (0xE0020, 0xE007F, "zyyy"), (0xE0100, 0xE01EF, "zinh")]

/-- The longer names of scripts, with their codes. -/
def scriptNames : List (String × String) :=
   [("adlam", "adlm"), ("anatolianhieroglyphs", "hluw"), ("arabic", "arab"), ("armenian", "armn"),
    ("avestan", "avst"), ("balinese", "bali"), ("bamum", "bamu"), ("bassavah", "bass"),
    ("batak", "batk"), ("bengali", "beng"), ("bhaiksuki", "bhks"), ("bopomofo", "bopo"),
    ("brahmi", "brah"), ("braille", "brai"), ("buginese", "bugi"), ("buhid", "buhd"),
    ("canadianaboriginal", "cans"), ("carian", "cari"), ("caucasianalbanian", "aghb"),
    ("chakma", "cakm"), ("cherokee", "cher"), ("chorasmian", "chrs"), ("common", "zyyy"),
    ("coptic", "copt"), ("cuneiform", "xsux"), ("cypriot", "cprt"), ("cyprominoan", "cpmn"),
    ("cyrillic", "cyrl"), ("deseret", "dsrt"), ("devanagari", "deva"), ("divesakuru", "diak"),
    ("dogra", "dogr"), ("duployan", "dupl"), ("egyptianhieroglyphs", "egyp"), ("elbasan", "elba"),
    ("elymaic", "elym"), ("ethiopic", "ethi"), ("garay", "gara"), ("georgian", "geor"),
    ("glagolitic", "glag"), ("gothic", "goth"), ("grantha", "gran"), ("greek", "grek"),
    ("gujarati", "gujr"), ("gunjalagondi", "gong"), ("gurmukhi", "guru"), ("gurungkhema", "gukh"),
    ("han", "hani"), ("hangul", "hang"), ("hanifirohingya", "rohg"), ("hanunoo", "hano"),
    ("hatran", "hatr"), ("hebrew", "hebr"), ("hiragana", "hira"), ("imperialaramaic", "armi"),
    ("inherited", "zinh"), ("inscriptionalpahlavi", "phli"), ("inscriptionalparthian", "prti"),
    ("javanese", "java"), ("kaithi", "kthi"), ("kannada", "knda"), ("katakana", "kana"),
    ("kayahli", "kali"), ("kharoshthi", "khar"), ("khitansmallscript", "kits"), ("khmer", "khmr"),
    ("khojki", "khoj"), ("khudawadi", "sind"), ("kiratrai", "krai"), ("lao", "laoo"),
    ("latin", "latn"), ("lepcha", "lepc"), ("limbu", "limb"), ("lineara", "lina"),
    ("linearb", "linb"), ("lycian", "lyci"), ("lydian", "lydi"), ("mahajani", "mahj"),
    ("makasar", "maka"), ("malayalam", "mlym"), ("mandaic", "mand"), ("manichaean", "mani"),
    ("marchen", "marc"), ("masaramgondi", "gonm"), ("medefaidrin", "medf"), ("meeteimayek", "mtei"),
    ("mendekikakui", "mend"), ("meroiticcursive", "merc"), ("meroitichieroglyphs", "mero"),
    ("miao", "plrd"), ("mongolian", "mong"), ("mro", "mroo"), ("multani", "mult"),
    ("myanmar", "mymr"), ("nabataean", "nbat"), ("nagmundari", "nagm"), ("nandinagari", "nand"),
    ("newtailue", "talu"), ("nko", "nkoo"), ("nushu", "nshu"), ("nyiakengpuachuehmong", "hmnp"),
    ("ogham", "ogam"), ("olchiki", "olck"), ("oldhungarian", "hung"), ("olditalic", "ital"),
    ("oldnortharabian", "narb"), ("oldpermic", "perm"), ("oldpersian", "xpeo"),
    ("oldsogdian", "sogo"), ("oldsoutharabian", "sarb"), ("oldturkic", "orkh"),
    ("olduyghur", "ougr"), ("olonal", "onao"), ("oriya", "orya"), ("osage", "osge"),
    ("osmanya", "osma"), ("pahawhhmong", "hmng"), ("palmyrene", "palm"), ("paucinhau", "pauc"),
    ("phagspa", "phag"), ("phoenician", "phnx"), ("psalterpahlavi", "phlp"), ("qaac", "copt"),
    ("qaai", "zinh"), ("rejang", "rjng"), ("runic", "runr"), ("samaritan", "samr"),
    ("saurashtra", "saur"), ("sharada", "shrd"), ("shavian", "shaw"), ("siddham", "sidd"),
    ("signwriting", "sgnw"), ("sinhala", "sinh"), ("sogdian", "sogd"), ("sorasompeng", "sora"),
    ("soyombo", "soyo"), ("sundanese", "sund"), ("sunuwar", "sunu"), ("sylotinagri", "sylo"),
    ("syriac", "syrc"), ("tagalog", "tglg"), ("tagbanwa", "tagb"), ("taile", "tale"),
    ("taitham", "lana"), ("taiviet", "tavt"), ("takri", "takr"), ("tamil", "taml"),
    ("tangsa", "tnsa"), ("tangut", "tang"), ("telugu", "telu"), ("thaana", "thaa"),
    ("tibetan", "tibt"), ("tifinagh", "tfng"), ("tirhuta", "tirh"), ("todhri", "todr"),
    ("tulutigalari", "tutg"), ("ugaritic", "ugar"), ("vai", "vaii"), ("vithkuqi", "vith"),
    ("wancho", "wcho"), ("warangciti", "wara"), ("yezidi", "yezi"), ("yi", "yiii"),
    ("zanabazarsquare", "zanb")]

end Text

end TreePath
