import Restaking.Text.CharSet
import Restaking.Text.Printable

/-!
# Characters of host names

The characters beyond ASCII that an internationalized host name may have wherever they stand: those of
derived property `PVALID`, but for letters of the Cherokee script, whose two cases change places. Marks,
letters that join their neighbours, and characters that are written from right to left are told apart,
because their places and their mixture matter. The runs pass over code points without a character, which
are not printable.
-/
namespace Restaking.Text.HostName

/-- Where characters of host names stand, beyond ASCII. -/
def letterRuns : Runs :=
  [
    (0xDF, 0xF6, 1), (0xF8, 0xFF, 1), (0x101, 0x131, 2), (0x135, 0x135, 1), (0x137, 0x138, 1),
    (0x13A, 0x13E, 2), (0x142, 0x148, 2), (0x14B, 0x177, 2), (0x17A, 0x180, 2), (0x183, 0x183, 1),
    (0x185, 0x185, 1), (0x188, 0x188, 1), (0x18C, 0x18D, 1), (0x192, 0x192, 1), (0x195, 0x195, 1),
    (0x199, 0x19B, 1), (0x19E, 0x19E, 1), (0x1A1, 0x1A5, 2), (0x1A8, 0x1A8, 1), (0x1AA, 0x1AB, 1),
    (0x1AD, 0x1AD, 1), (0x1B0, 0x1B0, 1), (0x1B4, 0x1B4, 1), (0x1B6, 0x1B6, 1), (0x1B9, 0x1BB, 1),
    (0x1BD, 0x1C3, 1), (0x1CE, 0x1DA, 2), (0x1DC, 0x1DD, 1), (0x1DF, 0x1ED, 2), (0x1EF, 0x1F0, 1),
    (0x1F5, 0x1F5, 1), (0x1F9, 0x231, 2), (0x233, 0x239, 1), (0x23C, 0x23C, 1), (0x23F, 0x240, 1),
    (0x242, 0x242, 1), (0x247, 0x24D, 2), (0x24F, 0x2AF, 1), (0x2B9, 0x2C1, 1), (0x2C6, 0x2D1, 1),
    (0x2EC, 0x2EC, 1), (0x2EE, 0x2EE, 1), (0x300, 0x33F, 1), (0x342, 0x342, 1), (0x346, 0x34E, 1),
    (0x350, 0x36F, 1), (0x371, 0x371, 1), (0x373, 0x373, 1), (0x377, 0x377, 1), (0x37B, 0x37D, 1),
    (0x390, 0x390, 1), (0x3AC, 0x3CE, 1), (0x3D7, 0x3EF, 2), (0x3F3, 0x3F3, 1), (0x3F8, 0x3F8, 1),
    (0x3FB, 0x3FC, 1), (0x430, 0x45F, 1), (0x461, 0x481, 2), (0x483, 0x487, 1), (0x48B, 0x4BF, 2),
    (0x4C2, 0x4CC, 2), (0x4CE, 0x4CF, 1), (0x4D1, 0x52F, 2), (0x559, 0x559, 1), (0x560, 0x586, 1),
    (0x588, 0x588, 1), (0x591, 0x5BD, 1), (0x5BF, 0x5BF, 1), (0x5C1, 0x5C2, 1), (0x5C4, 0x5C5, 1),
    (0x5C7, 0x5F2, 1), (0x610, 0x61A, 1), (0x620, 0x63F, 1), (0x641, 0x65F, 1), (0x66E, 0x674, 1),
    (0x679, 0x6D3, 1), (0x6D5, 0x6DC, 1), (0x6DF, 0x6E8, 1), (0x6EA, 0x6EF, 1), (0x6FA, 0x6FF, 1),
    (0x710, 0x7F5, 1), (0x7FD, 0x7FD, 1), (0x800, 0x82D, 1), (0x840, 0x85B, 1), (0x860, 0x887, 1),
    (0x889, 0x88E, 1), (0x898, 0x8E1, 1), (0x8E3, 0x957, 1), (0x960, 0x963, 1), (0x966, 0x96F, 1),
    (0x971, 0x9D7, 1), (0x9E0, 0x9F1, 1), (0x9FC, 0x9FC, 1), (0x9FE, 0xA32, 1), (0xA35, 0xA35, 1),
    (0xA38, 0xA51, 1), (0xA5C, 0xA5C, 1), (0xA66, 0xA75, 1), (0xA81, 0xAEF, 1), (0xAF9, 0xB57, 1),
    (0xB5F, 0xB6F, 1), (0xB71, 0xB71, 1), (0xB82, 0xBEF, 1), (0xC00, 0xC6F, 1), (0xC80, 0xC83, 1),
    (0xC85, 0xD4E, 1), (0xD54, 0xD57, 1), (0xD5F, 0xD6F, 1), (0xD7A, 0xDF3, 1), (0xE01, 0xE32, 1),
    (0xE34, 0xE3A, 1), (0xE40, 0xE4E, 1), (0xE50, 0xE59, 1), (0xE81, 0xEB2, 1), (0xEB4, 0xED9, 1),
    (0xEDE, 0xF00, 1), (0xF0B, 0xF0B, 1), (0xF18, 0xF19, 1), (0xF20, 0xF29, 1), (0xF35, 0xF39, 2),
    (0xF3E, 0xF42, 1), (0xF44, 0xF4C, 1), (0xF4E, 0xF51, 1), (0xF53, 0xF56, 1), (0xF58, 0xF5B, 1),
    (0xF5D, 0xF68, 1), (0xF6A, 0xF72, 1), (0xF74, 0xF74, 1), (0xF7A, 0xF80, 1), (0xF82, 0xF84, 1),
    (0xF86, 0xF92, 1), (0xF94, 0xF9C, 1), (0xF9E, 0xFA1, 1), (0xFA3, 0xFA6, 1), (0xFA8, 0xFAB, 1),
    (0xFAD, 0xFB8, 1), (0xFBA, 0xFBC, 1), (0xFC6, 0xFC6, 1), (0x1000, 0x1049, 1),
    (0x1050, 0x109D, 1), (0x10D0, 0x10FA, 1), (0x10FD, 0x10FF, 1), (0x1200, 0x135F, 1),
    (0x1380, 0x138F, 1), (0x1401, 0x166C, 1), (0x166F, 0x167F, 1), (0x1681, 0x169A, 1),
    (0x16A0, 0x16EA, 1), (0x16F1, 0x1734, 1), (0x1740, 0x17B3, 1), (0x17B6, 0x17D3, 1),
    (0x17D7, 0x17D7, 1), (0x17DC, 0x17E9, 1), (0x1810, 0x193B, 1), (0x1946, 0x19D9, 1),
    (0x1A00, 0x1A1B, 1), (0x1A20, 0x1A99, 1), (0x1AA7, 0x1AA7, 1), (0x1AB0, 0x1ABD, 1),
    (0x1ABF, 0x1B59, 1), (0x1B6B, 0x1B73, 1), (0x1B80, 0x1BF3, 1), (0x1C00, 0x1C37, 1),
    (0x1C40, 0x1C7D, 1), (0x1CD0, 0x1CD2, 1), (0x1CD4, 0x1D2B, 1), (0x1D2F, 0x1D2F, 1),
    (0x1D3B, 0x1D3B, 1), (0x1D4E, 0x1D4E, 1), (0x1D6B, 0x1D77, 1), (0x1D79, 0x1D9A, 1),
    (0x1DC0, 0x1DFF, 1), (0x1E01, 0x1E93, 2), (0x1E95, 0x1E99, 1), (0x1E9C, 0x1E9D, 1),
    (0x1E9F, 0x1EFD, 2), (0x1EFF, 0x1F07, 1), (0x1F10, 0x1F15, 1), (0x1F20, 0x1F27, 1),
    (0x1F30, 0x1F37, 1), (0x1F40, 0x1F45, 1), (0x1F50, 0x1F57, 1), (0x1F60, 0x1F67, 1),
    (0x1F70, 0x1F7C, 2), (0x1FB0, 0x1FB1, 1), (0x1FB6, 0x1FB6, 1), (0x1FC6, 0x1FC6, 1),
    (0x1FD0, 0x1FD2, 1), (0x1FD6, 0x1FD7, 1), (0x1FE0, 0x1FE2, 1), (0x1FE4, 0x1FE7, 1),
    (0x1FF6, 0x1FF6, 1), (0x214E, 0x214E, 1), (0x2184, 0x2184, 1), (0x2C30, 0x2C5F, 1),
    (0x2C61, 0x2C61, 1), (0x2C65, 0x2C66, 1), (0x2C68, 0x2C6C, 2), (0x2C71, 0x2C71, 1),
    (0x2C73, 0x2C74, 1), (0x2C76, 0x2C7B, 1), (0x2C81, 0x2CE1, 2), (0x2CE3, 0x2CE4, 1),
    (0x2CEC, 0x2CEC, 1), (0x2CEE, 0x2CF1, 1), (0x2CF3, 0x2CF3, 1), (0x2D00, 0x2D67, 1),
    (0x2D7F, 0x2DFF, 1), (0x2E2F, 0x2E2F, 1), (0x3005, 0x3007, 1), (0x302A, 0x302D, 1),
    (0x303C, 0x303C, 1), (0x3041, 0x309A, 1), (0x309D, 0x309E, 1), (0x30A1, 0x30FA, 1),
    (0x30FC, 0x30FE, 1), (0x3105, 0x312F, 1), (0x31A0, 0x31BF, 1), (0x31F0, 0x31FF, 1),
    (0x3400, 0x4DBF, 1), (0x4E00, 0xA48C, 1), (0xA4D0, 0xA4FD, 1), (0xA500, 0xA60C, 1),
    (0xA610, 0xA62B, 1), (0xA641, 0xA66B, 2), (0xA66D, 0xA66F, 1), (0xA674, 0xA67D, 1),
    (0xA67F, 0xA69B, 2), (0xA69E, 0xA6E5, 1), (0xA6F0, 0xA6F1, 1), (0xA717, 0xA71F, 1),
    (0xA723, 0xA72D, 2), (0xA72F, 0xA731, 1), (0xA733, 0xA76F, 2), (0xA771, 0xA778, 1),
    (0xA77A, 0xA77A, 1), (0xA77C, 0xA77C, 1), (0xA77F, 0xA785, 2), (0xA787, 0xA788, 1),
    (0xA78C, 0xA78C, 1), (0xA78E, 0xA78F, 1), (0xA791, 0xA791, 1), (0xA793, 0xA795, 1),
    (0xA797, 0xA7A9, 2), (0xA7AF, 0xA7AF, 1), (0xA7B5, 0xA7C3, 2), (0xA7C8, 0xA7C8, 1),
    (0xA7CA, 0xA7CA, 1), (0xA7D1, 0xA7D5, 1), (0xA7D7, 0xA7D7, 1), (0xA7D9, 0xA7D9, 1),
    (0xA7F6, 0xA7F7, 1), (0xA7FA, 0xA827, 1), (0xA82C, 0xA82C, 1), (0xA840, 0xA873, 1),
    (0xA880, 0xA8C5, 1), (0xA8D0, 0xA8F7, 1), (0xA8FB, 0xA8FB, 1), (0xA8FD, 0xA92D, 1),
    (0xA930, 0xA953, 1), (0xA980, 0xA9C0, 1), (0xA9CF, 0xA9D9, 1), (0xA9E0, 0xAA59, 1),
    (0xAA60, 0xAA76, 1), (0xAA7A, 0xAADD, 1), (0xAAE0, 0xAAEF, 1), (0xAAF2, 0xAB5A, 1),
    (0xAB60, 0xAB68, 1), (0xABC0, 0xABEA, 1), (0xABEC, 0xD7A3, 1), (0xFA0E, 0xFA0F, 1),
    (0xFA11, 0xFA11, 1), (0xFA13, 0xFA14, 1), (0xFA1F, 0xFA1F, 1), (0xFA21, 0xFA21, 1),
    (0xFA23, 0xFA24, 1), (0xFA27, 0xFA29, 1), (0xFB1E, 0xFB1E, 1), (0xFE20, 0xFE2F, 1),
    (0xFE73, 0xFE73, 1), (0x10000, 0x100FA, 1), (0x101FD, 0x102E0, 1), (0x10300, 0x1031F, 1),
    (0x1032D, 0x10340, 1), (0x10342, 0x10349, 1), (0x10350, 0x1039D, 1), (0x103A0, 0x103CF, 1),
    (0x10428, 0x104A9, 1), (0x104D8, 0x10563, 1), (0x10597, 0x10780, 1), (0x10800, 0x10855, 1),
    (0x10860, 0x10876, 1), (0x10880, 0x1089E, 1), (0x108E0, 0x108F5, 1), (0x10900, 0x10915, 1),
    (0x10920, 0x10939, 1), (0x10980, 0x109B7, 1), (0x109BE, 0x109BF, 1), (0x10A00, 0x10A3F, 1),
    (0x10A60, 0x10A7C, 1), (0x10A80, 0x10A9C, 1), (0x10AC0, 0x10AC7, 1), (0x10AC9, 0x10AE6, 1),
    (0x10B00, 0x10B35, 1), (0x10B40, 0x10B55, 1), (0x10B60, 0x10B72, 1), (0x10B80, 0x10B91, 1),
    (0x10C00, 0x10C48, 1), (0x10CC0, 0x10CF2, 1), (0x10D00, 0x10D39, 1), (0x10E80, 0x10EAC, 1),
    (0x10EB0, 0x10F1C, 1), (0x10F27, 0x10F50, 1), (0x10F70, 0x10F85, 1), (0x10FB0, 0x10FC4, 1),
    (0x10FE0, 0x11046, 1), (0x11066, 0x110BA, 1), (0x110C2, 0x110C2, 1), (0x110D0, 0x1113F, 1),
    (0x11144, 0x11173, 1), (0x11176, 0x111C4, 1), (0x111C9, 0x111CC, 1), (0x111CE, 0x111DA, 1),
    (0x111DC, 0x111DC, 1), (0x11200, 0x11237, 1), (0x1123E, 0x112A8, 1), (0x112B0, 0x1144A, 1),
    (0x11450, 0x11459, 1), (0x1145E, 0x114C5, 1), (0x114C7, 0x115C0, 1), (0x115D8, 0x11640, 1),
    (0x11644, 0x11659, 1), (0x11680, 0x116B8, 1), (0x116C0, 0x11739, 1), (0x11740, 0x1183A, 1),
    (0x118C0, 0x118E9, 1), (0x118FF, 0x11943, 1), (0x11950, 0x119E1, 1), (0x119E3, 0x11A3E, 1),
    (0x11A47, 0x11A99, 1), (0x11A9D, 0x11A9D, 1), (0x11AB0, 0x11C40, 1), (0x11C50, 0x11C59, 1),
    (0x11C72, 0x11EF6, 1), (0x11FB0, 0x11FB0, 1), (0x12000, 0x12399, 1), (0x12480, 0x12FF0, 1),
    (0x13000, 0x1342E, 1), (0x14400, 0x14646, 1), (0x16800, 0x16A69, 1), (0x16A70, 0x16AF4, 1),
    (0x16B00, 0x16B36, 1), (0x16B40, 0x16B43, 1), (0x16B50, 0x16B59, 1), (0x16B63, 0x16B8F, 1),
    (0x16E60, 0x16E7F, 1), (0x16F00, 0x16FE1, 1), (0x16FE3, 0x18D08, 1), (0x1AFF0, 0x1BC99, 1),
    (0x1BC9D, 0x1BC9E, 1), (0x1CF00, 0x1CF46, 1), (0x1DA00, 0x1DA36, 1), (0x1DA3B, 0x1DA6C, 1),
    (0x1DA75, 0x1DA75, 1), (0x1DA84, 0x1DA84, 1), (0x1DA9B, 0x1E14E, 1), (0x1E290, 0x1E2F9, 1),
    (0x1E7E0, 0x1E8C4, 1), (0x1E8D0, 0x1E8D6, 1), (0x1E922, 0x1E959, 1), (0x20000, 0x2EBE0, 1),
    (0x30000, 0x3134A, 1)]

/-- Where marks stand among the characters of host names. -/
def markRuns : Runs :=
  [
    (0x300, 0x33F, 1), (0x342, 0x342, 1), (0x346, 0x36F, 1), (0x483, 0x487, 1), (0x591, 0x5C7, 1),
    (0x610, 0x61A, 1), (0x64B, 0x65F, 1), (0x670, 0x670, 1), (0x6D6, 0x6E4, 1), (0x6E7, 0x6ED, 1),
    (0x711, 0x711, 1), (0x730, 0x74A, 1), (0x7A6, 0x7B0, 1), (0x7EB, 0x7F3, 1), (0x7FD, 0x7FD, 1),
    (0x816, 0x819, 1), (0x81B, 0x823, 1), (0x825, 0x827, 1), (0x829, 0x82D, 1), (0x859, 0x85B, 1),
    (0x898, 0x89F, 1), (0x8CA, 0x903, 1), (0x93A, 0x93C, 1), (0x93E, 0x94F, 1), (0x951, 0x957, 1),
    (0x962, 0x963, 1), (0x981, 0x983, 1), (0x9BC, 0x9BC, 1), (0x9BE, 0x9CD, 1), (0x9D7, 0x9D7, 1),
    (0x9E2, 0x9E3, 1), (0x9FE, 0xA03, 1), (0xA3C, 0xA51, 1), (0xA70, 0xA71, 1), (0xA75, 0xA83, 1),
    (0xABC, 0xABC, 1), (0xABE, 0xACD, 1), (0xAE2, 0xAE3, 1), (0xAFA, 0xB03, 1), (0xB3C, 0xB3C, 1),
    (0xB3E, 0xB57, 1), (0xB62, 0xB63, 1), (0xB82, 0xB82, 1), (0xBBE, 0xBCD, 1), (0xBD7, 0xBD7, 1),
    (0xC00, 0xC04, 1), (0xC3C, 0xC3C, 1), (0xC3E, 0xC56, 1), (0xC62, 0xC63, 1), (0xC81, 0xC83, 1),
    (0xCBC, 0xCBC, 1), (0xCBE, 0xCD6, 1), (0xCE2, 0xCE3, 1), (0xD00, 0xD03, 1), (0xD3B, 0xD3C, 1),
    (0xD3E, 0xD4D, 1), (0xD57, 0xD57, 1), (0xD62, 0xD63, 1), (0xD81, 0xD83, 1), (0xDCA, 0xDDF, 1),
    (0xDF2, 0xDF3, 1), (0xE31, 0xE31, 1), (0xE34, 0xE3A, 1), (0xE47, 0xE4E, 1), (0xEB1, 0xEB1, 1),
    (0xEB4, 0xEBC, 1), (0xEC8, 0xECD, 1), (0xF18, 0xF19, 1), (0xF35, 0xF3F, 1), (0xF71, 0xF72, 1),
    (0xF74, 0xF74, 1), (0xF7A, 0xF80, 1), (0xF82, 0xF87, 1), (0xF8D, 0xF92, 1), (0xF94, 0xF9C, 1),
    (0xF9E, 0xFA1, 1), (0xFA3, 0xFA6, 1), (0xFA8, 0xFAB, 1), (0xFAD, 0xFB8, 1), (0xFBA, 0xFC6, 1),
    (0x102B, 0x103E, 1), (0x1056, 0x1059, 1), (0x105E, 0x1060, 1), (0x1062, 0x1064, 1),
    (0x1067, 0x106D, 1), (0x1071, 0x1074, 1), (0x1082, 0x108D, 1), (0x108F, 0x108F, 1),
    (0x109A, 0x109D, 1), (0x135D, 0x135F, 1), (0x1712, 0x1715, 1), (0x1732, 0x1734, 1),
    (0x1752, 0x1753, 1), (0x1772, 0x1773, 1), (0x17B6, 0x17D3, 1), (0x17DD, 0x17DD, 1),
    (0x1885, 0x1886, 1), (0x18A9, 0x18A9, 1), (0x1920, 0x193B, 1), (0x1A17, 0x1A1B, 1),
    (0x1A55, 0x1A7F, 1), (0x1AB0, 0x1B04, 1), (0x1B34, 0x1B44, 1), (0x1B6B, 0x1B82, 1),
    (0x1BA1, 0x1BAD, 1), (0x1BE6, 0x1BF3, 1), (0x1C24, 0x1C37, 1), (0x1CD0, 0x1CE8, 1),
    (0x1CED, 0x1CED, 1), (0x1CF4, 0x1CF4, 1), (0x1CF7, 0x1CF9, 1), (0x1DC0, 0x1DFF, 1),
    (0x2CEF, 0x2CF1, 1), (0x2D7F, 0x2D7F, 1), (0x2DE0, 0x2DFF, 1), (0x302A, 0x302D, 1),
    (0x3099, 0x309A, 1), (0xA66F, 0xA67D, 1), (0xA69E, 0xA69F, 1), (0xA6F0, 0xA6F1, 1),
    (0xA802, 0xA802, 1), (0xA806, 0xA806, 1), (0xA80B, 0xA80B, 1), (0xA823, 0xA82C, 1),
    (0xA880, 0xA881, 1), (0xA8B4, 0xA8C5, 1), (0xA8E0, 0xA8F1, 1), (0xA8FF, 0xA8FF, 1),
    (0xA926, 0xA92D, 1), (0xA947, 0xA983, 1), (0xA9B3, 0xA9C0, 1), (0xA9E5, 0xA9E5, 1),
    (0xAA29, 0xAA36, 1), (0xAA43, 0xAA43, 1), (0xAA4C, 0xAA4D, 1), (0xAA7B, 0xAA7D, 1),
    (0xAAB0, 0xAAB0, 1), (0xAAB2, 0xAAB4, 1), (0xAAB7, 0xAAB8, 1), (0xAABE, 0xAABF, 1),
    (0xAAC1, 0xAAC1, 1), (0xAAEB, 0xAAEF, 1), (0xAAF5, 0xAAF6, 1), (0xABE3, 0xABED, 1),
    (0xFB1E, 0xFB1E, 1), (0xFE20, 0xFE2F, 1), (0x101FD, 0x101FD, 1), (0x102E0, 0x102E0, 1),
    (0x10376, 0x1037A, 1), (0x10A01, 0x10A0F, 1), (0x10A38, 0x10A3F, 1), (0x10AE5, 0x10AE6, 1),
    (0x10D24, 0x10D27, 1), (0x10EAB, 0x10EAC, 1), (0x10F46, 0x10F50, 1), (0x10F82, 0x10F85, 1),
    (0x11000, 0x11002, 1), (0x11038, 0x11046, 1), (0x11070, 0x11070, 1), (0x11073, 0x11074, 1),
    (0x1107F, 0x11082, 1), (0x110B0, 0x110C2, 1), (0x11100, 0x11102, 1), (0x11127, 0x11134, 1),
    (0x11145, 0x11146, 1), (0x11173, 0x11173, 1), (0x11180, 0x11182, 1), (0x111B3, 0x111C0, 1),
    (0x111C9, 0x111CF, 1), (0x1122C, 0x1123E, 1), (0x112DF, 0x112EA, 1), (0x11300, 0x11303, 1),
    (0x1133B, 0x1133C, 1), (0x1133E, 0x1134D, 1), (0x11357, 0x11357, 1), (0x11362, 0x11374, 1),
    (0x11435, 0x11446, 1), (0x1145E, 0x1145E, 1), (0x114B0, 0x114C3, 1), (0x115AF, 0x115C0, 1),
    (0x115DC, 0x115DD, 1), (0x11630, 0x11640, 1), (0x116AB, 0x116B7, 1), (0x1171D, 0x1172B, 1),
    (0x1182C, 0x1183A, 1), (0x11930, 0x1193E, 1), (0x11940, 0x11940, 1), (0x11942, 0x11943, 1),
    (0x119D1, 0x119E0, 1), (0x119E4, 0x119E4, 1), (0x11A01, 0x11A0A, 1), (0x11A33, 0x11A39, 1),
    (0x11A3B, 0x11A47, 1), (0x11A51, 0x11A5B, 1), (0x11A8A, 0x11A99, 1), (0x11C2F, 0x11C3F, 1),
    (0x11C92, 0x11CB6, 1), (0x11D31, 0x11D45, 1), (0x11D47, 0x11D47, 1), (0x11D8A, 0x11D97, 1),
    (0x11EF3, 0x11EF6, 1), (0x16AF0, 0x16AF4, 1), (0x16B30, 0x16B36, 1), (0x16F4F, 0x16F4F, 1),
    (0x16F51, 0x16F92, 1), (0x16FE4, 0x16FF1, 1), (0x1BC9D, 0x1BC9E, 1), (0x1CF00, 0x1CF46, 1),
    (0x1DA00, 0x1DAAF, 1), (0x1E000, 0x1E02A, 1), (0x1E130, 0x1E136, 1), (0x1E2AE, 0x1E2AE, 1),
    (0x1E2EC, 0x1E2EF, 1), (0x1E8D0, 0x1E8D6, 1), (0x1E944, 0x1E94A, 1)]

/-- Where letters stand that are written from right to left. -/
def leftwardRuns : Runs :=
  [
    (0x5BE, 0x5BE, 1), (0x5C0, 0x5C0, 1), (0x5C3, 0x5C3, 1), (0x5C6, 0x5C6, 1), (0x5D0, 0x5EA, 1),
    (0x5EF, 0x5F4, 1), (0x608, 0x608, 1), (0x60B, 0x60B, 1), (0x60D, 0x60D, 1), (0x61B, 0x64A, 1),
    (0x66D, 0x66F, 1), (0x671, 0x6D5, 1), (0x6E5, 0x6E6, 1), (0x6EE, 0x6EF, 1), (0x6FA, 0x70D, 1),
    (0x70F, 0x710, 1), (0x712, 0x72F, 1), (0x74D, 0x7A5, 1), (0x7B1, 0x7B1, 1), (0x7C0, 0x7EA, 1),
    (0x7F4, 0x7F5, 1), (0x7FA, 0x7FA, 1), (0x7FE, 0x815, 1), (0x81A, 0x81A, 1), (0x824, 0x824, 1),
    (0x828, 0x828, 1), (0x830, 0x83E, 1), (0x840, 0x858, 1), (0x85E, 0x85E, 1), (0x860, 0x86A, 1),
    (0x870, 0x88E, 1), (0x8A0, 0x8C9, 1), (0x200F, 0x200F, 1), (0xFB1D, 0xFB1D, 1),
    (0xFB1F, 0xFB28, 1), (0xFB2A, 0xFB36, 1), (0xFB38, 0xFB3C, 1), (0xFB3E, 0xFB3E, 1),
    (0xFB40, 0xFB41, 1), (0xFB43, 0xFB44, 1), (0xFB46, 0xFBC2, 1), (0xFBD3, 0xFD3D, 1),
    (0xFD50, 0xFD8F, 1), (0xFD92, 0xFDC7, 1), (0xFDF0, 0xFDFC, 1), (0xFE70, 0xFE74, 1),
    (0xFE76, 0xFEFC, 1), (0x10800, 0x10805, 1), (0x10808, 0x10808, 1), (0x1080A, 0x10835, 1),
    (0x10837, 0x10838, 1), (0x1083C, 0x1083C, 1), (0x1083F, 0x10855, 1), (0x10857, 0x1089E, 1),
    (0x108A7, 0x108AF, 1), (0x108E0, 0x108F2, 1), (0x108F4, 0x108F5, 1), (0x108FB, 0x1091B, 1),
    (0x10920, 0x10939, 1), (0x1093F, 0x1093F, 1), (0x10980, 0x109B7, 1), (0x109BC, 0x109CF, 1),
    (0x109D2, 0x10A00, 1), (0x10A10, 0x10A13, 1), (0x10A15, 0x10A17, 1), (0x10A19, 0x10A35, 1),
    (0x10A40, 0x10A48, 1), (0x10A50, 0x10A58, 1), (0x10A60, 0x10A9F, 1), (0x10AC0, 0x10AE4, 1),
    (0x10AEB, 0x10AF6, 1), (0x10B00, 0x10B35, 1), (0x10B40, 0x10B55, 1), (0x10B58, 0x10B72, 1),
    (0x10B78, 0x10B91, 1), (0x10B99, 0x10B9C, 1), (0x10BA9, 0x10BAF, 1), (0x10C00, 0x10C48, 1),
    (0x10C80, 0x10CB2, 1), (0x10CC0, 0x10CF2, 1), (0x10CFA, 0x10D23, 1), (0x10E80, 0x10EA9, 1),
    (0x10EAD, 0x10EAD, 1), (0x10EB0, 0x10EB1, 1), (0x10F00, 0x10F27, 1), (0x10F30, 0x10F45, 1),
    (0x10F51, 0x10F59, 1), (0x10F70, 0x10F81, 1), (0x10F86, 0x10F89, 1), (0x10FB0, 0x10FCB, 1),
    (0x10FE0, 0x10FF6, 1), (0x1E800, 0x1E8C4, 1), (0x1E8C7, 0x1E8CF, 1), (0x1E900, 0x1E943, 1),
    (0x1E94B, 0x1E94B, 1), (0x1E950, 0x1E959, 1), (0x1E95E, 0x1E95F, 1), (0x1EC71, 0x1ECB4, 1),
    (0x1ED01, 0x1ED3D, 1), (0x1EE00, 0x1EE03, 1), (0x1EE05, 0x1EE1F, 1), (0x1EE21, 0x1EE22, 1),
    (0x1EE24, 0x1EE24, 1), (0x1EE27, 0x1EE27, 1), (0x1EE29, 0x1EE32, 1), (0x1EE34, 0x1EE37, 1),
    (0x1EE39, 0x1EE39, 1), (0x1EE3B, 0x1EE3B, 1), (0x1EE42, 0x1EE42, 1), (0x1EE47, 0x1EE4B, 2),
    (0x1EE4D, 0x1EE4F, 1), (0x1EE51, 0x1EE52, 1), (0x1EE54, 0x1EE54, 1), (0x1EE57, 0x1EE5F, 2),
    (0x1EE61, 0x1EE62, 1), (0x1EE64, 0x1EE64, 1), (0x1EE67, 0x1EE6A, 1), (0x1EE6C, 0x1EE72, 1),
    (0x1EE74, 0x1EE77, 1), (0x1EE79, 0x1EE7C, 1), (0x1EE7E, 0x1EE7E, 1), (0x1EE80, 0x1EE89, 1),
    (0x1EE8B, 0x1EE9B, 1), (0x1EEA1, 0x1EEA3, 1), (0x1EEA5, 0x1EEA9, 1), (0x1EEAB, 0x1EEBB, 1)]

/-- Where letters stand that join the letter after them. -/
def forwardRuns : Runs :=
  [
    (0x620, 0x620, 1), (0x626, 0x626, 1), (0x628, 0x628, 1), (0x62A, 0x62E, 1), (0x633, 0x647, 1),
    (0x649, 0x64A, 1), (0x66E, 0x66F, 1), (0x679, 0x687, 1), (0x69A, 0x6BF, 1), (0x6C1, 0x6C2, 1),
    (0x6CC, 0x6CC, 1), (0x6CE, 0x6CE, 1), (0x6D0, 0x6D1, 1), (0x6FA, 0x6FC, 1), (0x6FF, 0x6FF, 1),
    (0x712, 0x714, 1), (0x71A, 0x71D, 1), (0x71F, 0x727, 1), (0x729, 0x729, 1), (0x72B, 0x72B, 1),
    (0x72D, 0x72E, 1), (0x74E, 0x758, 1), (0x75C, 0x76A, 1), (0x76D, 0x770, 1), (0x772, 0x772, 1),
    (0x775, 0x777, 1), (0x77A, 0x77F, 1), (0x7CA, 0x7EA, 1), (0x841, 0x845, 1), (0x848, 0x848, 1),
    (0x84A, 0x853, 1), (0x855, 0x855, 1), (0x860, 0x860, 1), (0x862, 0x865, 1), (0x868, 0x868, 1),
    (0x886, 0x886, 1), (0x889, 0x88D, 1), (0x8A0, 0x8A9, 1), (0x8AF, 0x8B0, 1), (0x8B3, 0x8B8, 1),
    (0x8BA, 0x8C8, 1), (0x1820, 0x1878, 1), (0x1887, 0x18A8, 1), (0x18AA, 0x18AA, 1),
    (0xA840, 0xA872, 1), (0x10AC0, 0x10AC4, 1), (0x10ACD, 0x10ACD, 1), (0x10AD3, 0x10ADC, 1),
    (0x10ADE, 0x10AE0, 1), (0x10B80, 0x10B80, 1), (0x10B82, 0x10B82, 1), (0x10B86, 0x10B88, 1),
    (0x10B8A, 0x10B8B, 1), (0x10B8D, 0x10B8D, 1), (0x10B90, 0x10B90, 1), (0x10D00, 0x10D21, 1),
    (0x10D23, 0x10D23, 1), (0x10F30, 0x10F32, 1), (0x10F34, 0x10F44, 1), (0x10F70, 0x10F73, 1),
    (0x10F76, 0x10F81, 1), (0x10FB0, 0x10FB0, 1), (0x10FB2, 0x10FB3, 1), (0x10FB8, 0x10FB8, 1),
    (0x10FBB, 0x10FBC, 1), (0x10FBE, 0x10FBF, 1), (0x10FC1, 0x10FC1, 1), (0x10FC4, 0x10FC4, 1),
    (0x1E922, 0x1E943, 1)]

/-- Where letters stand that join the letter before them. -/
def backwardRuns : Runs :=
  [
    (0x620, 0x620, 1), (0x622, 0x64A, 1), (0x66E, 0x66F, 1), (0x671, 0x673, 1), (0x679, 0x6D5, 1),
    (0x6EE, 0x6EF, 1), (0x6FA, 0x6FC, 1), (0x6FF, 0x710, 1), (0x712, 0x72F, 1), (0x74D, 0x77F, 1),
    (0x7CA, 0x7EA, 1), (0x840, 0x858, 1), (0x860, 0x860, 1), (0x862, 0x865, 1), (0x867, 0x882, 1),
    (0x886, 0x886, 1), (0x889, 0x88E, 1), (0x8A0, 0x8AC, 1), (0x8AE, 0x8C8, 1),
    (0x1820, 0x1878, 1), (0x1887, 0x18A8, 1), (0x18AA, 0x18AA, 1), (0xA840, 0xA871, 1),
    (0x10AC0, 0x10AC5, 1), (0x10AC7, 0x10ACA, 1), (0x10ACE, 0x10AD6, 1), (0x10AD8, 0x10AE1, 1),
    (0x10AE4, 0x10AE4, 1), (0x10B80, 0x10B91, 1), (0x10D01, 0x10D23, 1), (0x10F30, 0x10F44, 1),
    (0x10F70, 0x10F81, 1), (0x10FB0, 0x10FB0, 1), (0x10FB2, 0x10FB6, 1), (0x10FB8, 0x10FBF, 1),
    (0x10FC1, 0x10FC4, 1), (0x1E922, 0x1E943, 1)]

/-- Where characters stand that a host name may have in the form of others alone. -/
def mappedRuns : Runs :=
  [
    (0xAA, 0xAA, 1), (0xB2, 0xB3, 1), (0xB5, 0xB5, 1), (0xB9, 0xBA, 1), (0xC0, 0xD6, 1),
    (0xD8, 0xDE, 1), (0x100, 0x130, 2), (0x132, 0x134, 1), (0x136, 0x136, 1), (0x139, 0x13D, 2),
    (0x13F, 0x141, 1), (0x143, 0x147, 2), (0x149, 0x14A, 1), (0x14C, 0x176, 2), (0x178, 0x179, 1),
    (0x17B, 0x17F, 2), (0x181, 0x182, 1), (0x184, 0x184, 1), (0x186, 0x187, 1), (0x189, 0x18B, 1),
    (0x18E, 0x191, 1), (0x193, 0x194, 1), (0x196, 0x198, 1), (0x19C, 0x19D, 1), (0x19F, 0x1A0, 1),
    (0x1A2, 0x1A2, 1), (0x1A4, 0x1A4, 1), (0x1A6, 0x1A7, 1), (0x1A9, 0x1A9, 1), (0x1AC, 0x1AC, 1),
    (0x1AE, 0x1AF, 1), (0x1B1, 0x1B3, 1), (0x1B5, 0x1B5, 1), (0x1B7, 0x1B8, 1), (0x1BC, 0x1BC, 1),
    (0x1C4, 0x1CD, 1), (0x1CF, 0x1DB, 2), (0x1DE, 0x1EE, 2), (0x1F1, 0x1F4, 1), (0x1F6, 0x1F8, 1),
    (0x1FA, 0x232, 2), (0x23A, 0x23B, 1), (0x23D, 0x23E, 1), (0x241, 0x241, 1), (0x243, 0x246, 1),
    (0x248, 0x24E, 2), (0x2B0, 0x2B8, 1), (0x2E0, 0x2E4, 1), (0x340, 0x341, 1), (0x343, 0x345, 1),
    (0x370, 0x376, 2), (0x37F, 0x37F, 1), (0x386, 0x38F, 1), (0x391, 0x3AB, 1), (0x3CF, 0x3D6, 1),
    (0x3D8, 0x3EE, 2), (0x3F0, 0x3F2, 1), (0x3F4, 0x3F5, 1), (0x3F7, 0x3F7, 1), (0x3F9, 0x3FA, 1),
    (0x3FD, 0x42F, 1), (0x460, 0x480, 2), (0x48A, 0x4BE, 2), (0x4C1, 0x4CD, 2), (0x4D0, 0x52E, 2),
    (0x531, 0x556, 1), (0x587, 0x587, 1), (0x675, 0x678, 1), (0x958, 0x95F, 1), (0x9DC, 0x9DF, 1),
    (0xA33, 0xA33, 1), (0xA36, 0xA36, 1), (0xA59, 0xA5B, 1), (0xA5E, 0xA5E, 1), (0xB5C, 0xB5D, 1),
    (0xE33, 0xE33, 1), (0xEB3, 0xEB3, 1), (0xEDC, 0xEDD, 1), (0xF0C, 0xF0C, 1), (0xF43, 0xF43, 1),
    (0xF4D, 0xF4D, 1), (0xF52, 0xF52, 1), (0xF57, 0xF57, 1), (0xF5C, 0xF5C, 1), (0xF69, 0xF69, 1),
    (0xF73, 0xF73, 1), (0xF75, 0xF79, 1), (0xF81, 0xF81, 1), (0xF93, 0xF93, 1), (0xF9D, 0xF9D, 1),
    (0xFA2, 0xFA2, 1), (0xFA7, 0xFA7, 1), (0xFAC, 0xFAC, 1), (0xFB9, 0xFB9, 1),
    (0x10C7, 0x10CD, 1), (0x10FC, 0x10FC, 1), (0x13F8, 0x13FD, 1), (0x1C80, 0x1CBF, 1),
    (0x1D2C, 0x1D2E, 1), (0x1D30, 0x1D3A, 1), (0x1D3C, 0x1D4D, 1), (0x1D4F, 0x1D6A, 1),
    (0x1D78, 0x1D78, 1), (0x1D9B, 0x1DBF, 1), (0x1E00, 0x1E94, 2), (0x1E9A, 0x1E9B, 1),
    (0x1E9E, 0x1EFE, 2), (0x1F08, 0x1F0F, 1), (0x1F18, 0x1F1D, 1), (0x1F28, 0x1F2F, 1),
    (0x1F38, 0x1F3F, 1), (0x1F48, 0x1F4D, 1), (0x1F59, 0x1F5F, 1), (0x1F68, 0x1F6F, 1),
    (0x1F71, 0x1F7B, 2), (0x1F7D, 0x1FAF, 1), (0x1FB2, 0x1FB4, 1), (0x1FB7, 0x1FBC, 1),
    (0x1FBE, 0x1FBE, 1), (0x1FC2, 0x1FC4, 1), (0x1FC7, 0x1FCC, 1), (0x1FD3, 0x1FD3, 1),
    (0x1FD8, 0x1FDB, 1), (0x1FE3, 0x1FE3, 1), (0x1FE8, 0x1FEC, 1), (0x1FF2, 0x1FF4, 1),
    (0x1FF7, 0x1FFC, 1), (0x2070, 0x2079, 1), (0x207F, 0x2089, 1), (0x2090, 0x209C, 1),
    (0x20A8, 0x20A8, 1), (0x2102, 0x2102, 1), (0x2107, 0x2107, 1), (0x210A, 0x2113, 1),
    (0x2115, 0x2116, 1), (0x2119, 0x211D, 1), (0x2120, 0x2122, 1), (0x2124, 0x2128, 2),
    (0x212A, 0x212D, 1), (0x212F, 0x2131, 1), (0x2133, 0x2139, 1), (0x213B, 0x213F, 1),
    (0x2145, 0x2149, 1), (0x2160, 0x217F, 1), (0x2460, 0x2473, 1), (0x24B6, 0x24EA, 1),
    (0x2C00, 0x2C2F, 1), (0x2C60, 0x2C60, 1), (0x2C62, 0x2C64, 1), (0x2C67, 0x2C6B, 2),
    (0x2C6D, 0x2C70, 1), (0x2C72, 0x2C72, 1), (0x2C75, 0x2C75, 1), (0x2C7C, 0x2C80, 1),
    (0x2C82, 0x2CE2, 2), (0x2CEB, 0x2CEB, 1), (0x2CED, 0x2CED, 1), (0x2CF2, 0x2CF2, 1),
    (0x2D6F, 0x2D6F, 1), (0x2E9F, 0x2E9F, 1), (0x2EF3, 0x2FD5, 1), (0x3038, 0x303A, 1),
    (0x309F, 0x309F, 1), (0x30FF, 0x30FF, 1), (0x3192, 0x319F, 1), (0x3244, 0x3247, 1),
    (0x3250, 0x325F, 1), (0x326E, 0x327E, 1), (0x3280, 0x33A6, 1), (0x33A9, 0x33AD, 1),
    (0x33B0, 0x33C1, 1), (0x33C3, 0x33C5, 1), (0x33C8, 0x33D7, 1), (0x33D9, 0x33DD, 1),
    (0x33E0, 0x33FF, 1), (0xA640, 0xA66C, 2), (0xA680, 0xA69A, 2), (0xA69C, 0xA69D, 1),
    (0xA722, 0xA72E, 2), (0xA732, 0xA770, 2), (0xA779, 0xA779, 1), (0xA77B, 0xA77B, 1),
    (0xA77D, 0xA77E, 1), (0xA780, 0xA786, 2), (0xA78B, 0xA78B, 1), (0xA78D, 0xA78D, 1),
    (0xA790, 0xA790, 1), (0xA792, 0xA792, 1), (0xA796, 0xA7A8, 2), (0xA7AA, 0xA7AE, 1),
    (0xA7B0, 0xA7B4, 1), (0xA7B6, 0xA7C2, 2), (0xA7C4, 0xA7C7, 1), (0xA7C9, 0xA7C9, 1),
    (0xA7D0, 0xA7D0, 1), (0xA7D6, 0xA7D6, 1), (0xA7D8, 0xA7D8, 1), (0xA7F2, 0xA7F5, 1),
    (0xA7F8, 0xA7F9, 1), (0xAB5C, 0xAB5F, 1), (0xAB69, 0xAB69, 1), (0xAB70, 0xABBF, 1),
    (0xF900, 0xFA0D, 1), (0xFA10, 0xFA10, 1), (0xFA12, 0xFA12, 1), (0xFA15, 0xFA1E, 1),
    (0xFA20, 0xFA20, 1), (0xFA22, 0xFA22, 1), (0xFA25, 0xFA26, 1), (0xFA2A, 0xFB1D, 1),
    (0xFB1F, 0xFB28, 1), (0xFB2A, 0xFBB1, 1), (0xFBD3, 0xFC5D, 1), (0xFC64, 0xFCF1, 1),
    (0xFCF5, 0xFD3D, 1), (0xFD50, 0xFDC7, 1), (0xFDF0, 0xFDF9, 1), (0xFDFC, 0xFDFC, 1),
    (0xFE63, 0xFE63, 1), (0xFE80, 0xFEFC, 1), (0xFF0D, 0xFF0D, 1), (0xFF10, 0xFF19, 1),
    (0xFF21, 0xFF3A, 1), (0xFF41, 0xFF5A, 1), (0xFF65, 0xFF9F, 1), (0x10400, 0x10427, 1),
    (0x104B0, 0x104D3, 1), (0x10570, 0x10595, 1), (0x10781, 0x107BA, 1), (0x10C80, 0x10CB2, 1),
    (0x118A0, 0x118BF, 1), (0x16E40, 0x16E5F, 1), (0x1D400, 0x1D6C0, 1), (0x1D6C2, 0x1D6DA, 1),
    (0x1D6DC, 0x1D6FA, 1), (0x1D6FC, 0x1D714, 1), (0x1D716, 0x1D734, 1), (0x1D736, 0x1D74E, 1),
    (0x1D750, 0x1D76E, 1), (0x1D770, 0x1D788, 1), (0x1D78A, 0x1D7A8, 1), (0x1D7AA, 0x1D7C2, 1),
    (0x1D7C4, 0x1D7FF, 1), (0x1E900, 0x1E921, 1), (0x1EE00, 0x1EEBB, 1), (0x1F12B, 0x1F12E, 1),
    (0x1F130, 0x1F14F, 1), (0x1F16A, 0x1F16C, 1), (0x1F190, 0x1F190, 1), (0x1F200, 0x1F23B, 1),
    (0x1F250, 0x1F251, 1), (0x1FBF0, 0x1FBF9, 1), (0x2F800, 0x2F867, 1), (0x2F869, 0x2F873, 1),
    (0x2F875, 0x2F91E, 1), (0x2F920, 0x2F95E, 1), (0x2F960, 0x2F9BE, 1), (0x2F9C0, 0x2FA1D, 1)]

/-- Whether a host name may have a character, whatever stands beside it. -/
def isLetter (c : Char) : Bool :=
  if isAscii c then ('a' ≤ c && c ≤ 'z') || c.isDigit || c == '-'
  else letterRuns.contains c && isPrintable c

/-- Whether a character of a host name is a mark, which belongs to the character before it. -/
def isMark (c : Char) : Bool := !isAscii c && markRuns.contains c

/-- Whether a letter of a host name joins the letter after it. -/
def joinsForward (c : Char) : Bool := !isAscii c && forwardRuns.contains c

/-- Whether a letter of a host name joins the letter before it. -/
def joinsBackward (c : Char) : Bool := !isAscii c && backwardRuns.contains c

/-- Whether a host name may have a character in the form of others alone. -/
def isMapped (c : Char) : Bool := !isAscii c && mappedRuns.contains c && isPrintable c

/-- Whether a letter of a host name is written from right to left. -/
def isLeftward (c : Char) : Bool := !isAscii c && leftwardRuns.contains c

end Restaking.Text.HostName
