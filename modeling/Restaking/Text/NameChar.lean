import Restaking.Text.CharSet

/-!
# Characters of account names

The characters that a name service takes into a label, as they are or mapped to others. Punctuation is
left out but for a few signs that letters carry, and so are forms that only stand above or below a line.
-/
namespace Restaking.Text.DomainName

/-- Where characters of labels stand, beyond ASCII. -/
def nameRuns : Runs :=
  [
    (0xA2, 0xA6, 1), (0xA9, 0xA9, 1), (0xAC, 0xAC, 1), (0xAE, 0xAE, 1), (0xB0, 0xB1, 1),
    (0xB5, 0xB5, 1), (0xBC, 0xBE, 1), (0xC0, 0x13E, 1), (0x141, 0x2AF, 1), (0x2B9, 0x2D7, 1),
    (0x2DE, 0x2DF, 1), (0x2E5, 0x34E, 1), (0x350, 0x377, 1), (0x37B, 0x37D, 1), (0x37F, 0x37F, 1),
    (0x386, 0x386, 1), (0x388, 0x487, 1), (0x48A, 0x4BF, 1), (0x4C1, 0x559, 1), (0x560, 0x588, 1),
    (0x58D, 0x5BD, 1), (0x5BF, 0x5BF, 1), (0x5C1, 0x5C2, 1), (0x5C4, 0x5C5, 1), (0x5C7, 0x5F2, 1),
    (0x606, 0x608, 1), (0x60B, 0x60B, 1), (0x60E, 0x61A, 1), (0x620, 0x669, 1), (0x66E, 0x6D3, 1),
    (0x6D5, 0x6DC, 1), (0x6DE, 0x6FF, 1), (0x710, 0x7F6, 1), (0x7FA, 0x82D, 1), (0x840, 0x85B, 1),
    (0x860, 0x88E, 1), (0x898, 0x8E1, 1), (0x8E3, 0x963, 1), (0x966, 0x96F, 1), (0x971, 0x9FC, 1),
    (0x9FE, 0xA75, 1), (0xA81, 0xAEF, 1), (0xAF1, 0xC6F, 1), (0xC78, 0xC83, 1), (0xC85, 0xDF3, 1),
    (0xE01, 0xE4E, 1), (0xE50, 0xE59, 1), (0xE81, 0xF03, 1), (0xF13, 0xF13, 1), (0xF15, 0xF39, 1),
    (0xF3E, 0xF84, 1), (0xF86, 0xFCF, 1), (0xFD5, 0xFD8, 1), (0x1000, 0x1049, 1),
    (0x1050, 0x109F, 1), (0x10C7, 0x10FA, 1), (0x10FD, 0x115E, 1), (0x1161, 0x135F, 1),
    (0x1369, 0x13FD, 1), (0x1401, 0x166D, 1), (0x166F, 0x167F, 1), (0x1681, 0x169A, 1),
    (0x16A0, 0x16EA, 1), (0x16EE, 0x1734, 1), (0x1740, 0x17B3, 1), (0x17B6, 0x17D3, 1),
    (0x17D7, 0x17D7, 1), (0x17DB, 0x17F9, 1), (0x1810, 0x1940, 1), (0x1946, 0x1A1B, 1),
    (0x1A20, 0x1A99, 1), (0x1AA7, 0x1AA7, 1), (0x1AB0, 0x1ABD, 1), (0x1ABF, 0x1B59, 1),
    (0x1B61, 0x1B7C, 1), (0x1B80, 0x1BF3, 1), (0x1C00, 0x1C37, 1), (0x1C40, 0x1C7D, 1),
    (0x1C80, 0x1CBF, 1), (0x1CD0, 0x1CD2, 1), (0x1CD4, 0x1D2B, 1), (0x1D2F, 0x1D2F, 1),
    (0x1D3B, 0x1D3B, 1), (0x1D4E, 0x1D4E, 1), (0x1D6B, 0x1D77, 1), (0x1D79, 0x1D9A, 1),
    (0x1DC0, 0x1FBC, 1), (0x1FBE, 0x1FBE, 1), (0x1FC2, 0x1FCC, 1), (0x1FD0, 0x1FDB, 1),
    (0x1FE0, 0x1FEC, 1), (0x1FF2, 0x1FFC, 1), (0x2010, 0x2015, 1), (0x2019, 0x2019, 1),
    (0x2043, 0x2044, 1), (0x2052, 0x2052, 1), (0x20A0, 0x20DC, 1), (0x20E1, 0x20E1, 1),
    (0x20E5, 0x20F0, 1), (0x2102, 0x2104, 1), (0x2107, 0x211F, 1), (0x2121, 0x2121, 1),
    (0x2123, 0x2131, 1), (0x2133, 0x2182, 1), (0x2184, 0x2307, 1), (0x230C, 0x2328, 1),
    (0x232B, 0x2473, 1), (0x24B6, 0x2767, 1), (0x2776, 0x27C4, 1), (0x27C7, 0x27E5, 1),
    (0x27F0, 0x2982, 1), (0x2999, 0x29D7, 1), (0x29DC, 0x29FB, 1), (0x29FE, 0x2A73, 1),
    (0x2A77, 0x2C7B, 1), (0x2C7E, 0x2CF3, 1), (0x2CFD, 0x2CFD, 1), (0x2D00, 0x2D67, 1),
    (0x2D7F, 0x2DFF, 1), (0x2E2F, 0x2E2F, 1), (0x2E50, 0x2E51, 1), (0x2E80, 0x2FD5, 1),
    (0x3004, 0x3007, 1), (0x3012, 0x3013, 1), (0x3020, 0x302F, 1), (0x3031, 0x303C, 1),
    (0x303E, 0x309A, 1), (0x309D, 0x309F, 1), (0x30A1, 0x3163, 1), (0x3165, 0x3191, 1),
    (0x31A0, 0x31FF, 1), (0x3244, 0x33C1, 1), (0x33C3, 0x33C6, 1), (0x33C8, 0x33D7, 1),
    (0x33D9, 0xA4FD, 1), (0xA500, 0xA60C, 1), (0xA610, 0xA66F, 1), (0xA674, 0xA67D, 1),
    (0xA67F, 0xA69B, 1), (0xA69E, 0xA6F1, 1), (0xA700, 0xA76F, 1), (0xA771, 0xA7D9, 1),
    (0xA7F5, 0xA7F7, 1), (0xA7FA, 0xA873, 1), (0xA880, 0xA8C5, 1), (0xA8D0, 0xA8F7, 1),
    (0xA8FB, 0xA8FB, 1), (0xA8FD, 0xA92D, 1), (0xA930, 0xA953, 1), (0xA960, 0xA9C0, 1),
    (0xA9CF, 0xA9D9, 1), (0xA9E0, 0xAA59, 1), (0xAA60, 0xAADD, 1), (0xAAE0, 0xAAEF, 1),
    (0xAAF2, 0xAB5B, 1), (0xAB60, 0xAB68, 1), (0xAB6A, 0xABEA, 1), (0xABEC, 0xD7FB, 1),
    (0xF900, 0xFB28, 1), (0xFB2A, 0xFC5D, 1), (0xFC64, 0xFD3D, 1), (0xFD40, 0xFDF9, 1),
    (0xFDFC, 0xFDFF, 1), (0xFE20, 0xFE2F, 1), (0xFE58, 0xFE58, 1), (0xFE63, 0xFE63, 1),
    (0xFE71, 0xFE71, 1), (0xFE73, 0xFE73, 1), (0xFE77, 0xFE7D, 2), (0xFE7F, 0xFEFC, 1),
    (0xFF0D, 0xFF0D, 1), (0xFF10, 0xFF19, 1), (0xFF21, 0xFF3A, 1), (0xFF41, 0xFF5A, 1),
    (0xFF65, 0xFF9F, 1), (0xFFA1, 0xFFE2, 1), (0xFFE4, 0xFFEE, 1), (0x10000, 0x100FA, 1),
    (0x10107, 0x1039D, 1), (0x103A0, 0x103CF, 1), (0x103D1, 0x10563, 1), (0x10570, 0x10780, 1),
    (0x10800, 0x10855, 1), (0x10858, 0x1091B, 1), (0x10920, 0x10939, 1), (0x10980, 0x10A48, 1),
    (0x10A60, 0x10A7E, 1), (0x10A80, 0x10AEF, 1), (0x10B00, 0x10B35, 1), (0x10B40, 0x10B91, 1),
    (0x10BA9, 0x10EAC, 1), (0x10EB0, 0x10F54, 1), (0x10F70, 0x10F85, 1), (0x10FB0, 0x11046, 1),
    (0x11052, 0x110BA, 1), (0x110C2, 0x110C2, 1), (0x110D0, 0x1113F, 1), (0x11144, 0x11173, 1),
    (0x11176, 0x111C4, 1), (0x111C9, 0x111CC, 1), (0x111CE, 0x111DA, 1), (0x111DC, 0x111DC, 1),
    (0x111E1, 0x11237, 1), (0x1123E, 0x112A8, 1), (0x112B0, 0x1144A, 1), (0x11450, 0x11459, 1),
    (0x1145E, 0x114C5, 1), (0x114C7, 0x115C0, 1), (0x115D8, 0x11640, 1), (0x11644, 0x11659, 1),
    (0x11680, 0x116B8, 1), (0x116C0, 0x1173B, 1), (0x1173F, 0x1183A, 1), (0x118A0, 0x11943, 1),
    (0x11950, 0x119E1, 1), (0x119E3, 0x11A3E, 1), (0x11A47, 0x11A99, 1), (0x11A9D, 0x11A9D, 1),
    (0x11AB0, 0x11C40, 1), (0x11C50, 0x11C6C, 1), (0x11C72, 0x11EF6, 1), (0x11F00, 0x11FF1, 1),
    (0x12000, 0x1246E, 1), (0x12480, 0x12FF0, 1), (0x13000, 0x1342F, 1), (0x13440, 0x13455, 1),
    (0x14400, 0x14646, 1), (0x16800, 0x16A69, 1), (0x16A70, 0x16AF4, 1), (0x16B00, 0x16B36, 1),
    (0x16B3C, 0x16B43, 1), (0x16B45, 0x16E96, 1), (0x16F00, 0x16FE1, 1), (0x16FE3, 0x18D08, 1),
    (0x1AFF0, 0x1BC9E, 1), (0x1CF00, 0x1D172, 1), (0x1D17B, 0x1DA86, 1), (0x1DA9B, 0x1E959, 1),
    (0x1EC71, 0x1F0F5, 1), (0x1F10B, 0x1F10F, 1), (0x1F12B, 0x1F169, 1), (0x1F16D, 0x1F1AD, 1),
    (0x1F200, 0x1F23B, 1), (0x1F250, 0x2F867, 1), (0x2F869, 0x2F873, 1), (0x2F875, 0x2F91E, 1),
    (0x2F920, 0x2F95E, 1), (0x2F960, 0x2F9BE, 1), (0x2F9C0, 0x323AF, 1)]

/-- Whether a label may have a character that is no part of an emoji. -/
def isNameChar (c : Char) : Bool :=
  if isAscii c then c.isAlphanum || c == '-' || c == '$' || c == '_' || c == '\x27'
  else nameRuns.contains c

/-- Whether a character disappears from a label. -/
def isIgnored (c : Char) : Bool :=
  c == '\u00AD' || c == '\u200B' || c == '\u2060' || c == '\uFEFF'

end Restaking.Text.DomainName
