import RecordFilter.Text.CodeTable

/-!
# Characters that casing changes

For each change of case, the characters whose canonical decomposition it does not keep.
-/

namespace RecordFilter

namespace CharProperty

set_option maxRecDepth 8000

def loweredTable : CodeTable := #[
  (0x41, 0x5A, 1), (0xC0, 0xD6, 1), (0xD8, 0xDE, 1), (0x100, 0x136, 2), (0x139, 0x147, 2),
  (0x14A, 0x176, 2), (0x178, 0x179, 1), (0x17B, 0x17D, 2), (0x181, 0x182, 1), (0x184, 0x184, 1),
  (0x186, 0x187, 1), (0x189, 0x18B, 1), (0x18E, 0x191, 1), (0x193, 0x194, 1), (0x196, 0x198, 1),
  (0x19C, 0x19D, 1), (0x19F, 0x1A0, 1), (0x1A2, 0x1A4, 2), (0x1A6, 0x1A7, 1), (0x1A9, 0x1A9, 1),
  (0x1AC, 0x1AC, 1), (0x1AE, 0x1AF, 1), (0x1B1, 0x1B3, 1), (0x1B5, 0x1B5, 1), (0x1B7, 0x1B8, 1),
  (0x1BC, 0x1BC, 1), (0x1C4, 0x1C5, 1), (0x1C7, 0x1C8, 1), (0x1CA, 0x1CB, 1), (0x1CD, 0x1DB, 2),
  (0x1DE, 0x1EE, 2), (0x1F1, 0x1F2, 1), (0x1F4, 0x1F4, 1), (0x1F6, 0x1F8, 1), (0x1FA, 0x232, 2),
  (0x23A, 0x23B, 1), (0x23D, 0x23E, 1), (0x241, 0x241, 1), (0x243, 0x246, 1), (0x248, 0x24E, 2),
  (0x370, 0x372, 2), (0x376, 0x376, 1), (0x37F, 0x37F, 1), (0x386, 0x386, 1), (0x388, 0x38A, 1),
  (0x38C, 0x38C, 1), (0x38E, 0x38F, 1), (0x391, 0x3A1, 1), (0x3A3, 0x3AB, 1), (0x3CF, 0x3CF, 1),
  (0x3D8, 0x3EE, 2), (0x3F4, 0x3F4, 1), (0x3F7, 0x3F7, 1), (0x3F9, 0x3FA, 1), (0x3FD, 0x42F, 1),
  (0x460, 0x480, 2), (0x48A, 0x4BE, 2), (0x4C0, 0x4C1, 1), (0x4C3, 0x4CD, 2), (0x4D0, 0x52E, 2),
  (0x531, 0x556, 1), (0x10A0, 0x10C5, 1), (0x10C7, 0x10C7, 1), (0x10CD, 0x10CD, 1),
  (0x13A0, 0x13F5, 1), (0x1C89, 0x1C89, 1), (0x1C90, 0x1CBA, 1), (0x1CBD, 0x1CBF, 1),
  (0x1E00, 0x1E94, 2), (0x1E9E, 0x1EFE, 2), (0x1F08, 0x1F0F, 1), (0x1F18, 0x1F1D, 1),
  (0x1F28, 0x1F2F, 1), (0x1F38, 0x1F3F, 1), (0x1F48, 0x1F4D, 1), (0x1F59, 0x1F5F, 2),
  (0x1F68, 0x1F6F, 1), (0x1F88, 0x1F8F, 1), (0x1F98, 0x1F9F, 1), (0x1FA8, 0x1FAF, 1),
  (0x1FB8, 0x1FBC, 1), (0x1FC8, 0x1FCC, 1), (0x1FD8, 0x1FDB, 1), (0x1FE8, 0x1FEC, 1),
  (0x1FF8, 0x1FFC, 1), (0x2126, 0x2126, 1), (0x212A, 0x212B, 1), (0x2132, 0x2132, 1),
  (0x2160, 0x216F, 1), (0x2183, 0x2183, 1), (0x24B6, 0x24CF, 1), (0x2C00, 0x2C2F, 1),
  (0x2C60, 0x2C60, 1), (0x2C62, 0x2C64, 1), (0x2C67, 0x2C6B, 2), (0x2C6D, 0x2C70, 1),
  (0x2C72, 0x2C72, 1), (0x2C75, 0x2C75, 1), (0x2C7E, 0x2C80, 1), (0x2C82, 0x2CE2, 2),
  (0x2CEB, 0x2CED, 2), (0x2CF2, 0x2CF2, 1), (0xA640, 0xA66C, 2), (0xA680, 0xA69A, 2),
  (0xA722, 0xA72E, 2), (0xA732, 0xA76E, 2), (0xA779, 0xA77B, 2), (0xA77D, 0xA77E, 1),
  (0xA780, 0xA786, 2), (0xA78B, 0xA78D, 2), (0xA790, 0xA792, 2), (0xA796, 0xA7A8, 2),
  (0xA7AA, 0xA7AE, 1), (0xA7B0, 0xA7B4, 1), (0xA7B6, 0xA7C2, 2), (0xA7C4, 0xA7C7, 1),
  (0xA7C9, 0xA7C9, 1), (0xA7CB, 0xA7CC, 1), (0xA7CE, 0xA7DC, 2), (0xA7F5, 0xA7F5, 1),
  (0xFF21, 0xFF3A, 1), (0x10400, 0x10427, 1), (0x104B0, 0x104D3, 1), (0x10570, 0x1057A, 1),
  (0x1057C, 0x1058A, 1), (0x1058C, 0x10592, 1), (0x10594, 0x10595, 1), (0x10C80, 0x10CB2, 1),
  (0x10D50, 0x10D65, 1), (0x118A0, 0x118BF, 1), (0x16E40, 0x16E5F, 1), (0x16EA0, 0x16EB8, 1),
  (0x1E900, 0x1E921, 1)]

def upperedTable : CodeTable := #[
  (0x61, 0x7A, 1), (0xB5, 0xB5, 1), (0xDF, 0xF6, 1), (0xF8, 0xFF, 1), (0x101, 0x137, 2),
  (0x13A, 0x146, 2), (0x148, 0x149, 1), (0x14B, 0x177, 2), (0x17A, 0x17C, 2), (0x17E, 0x180, 1),
  (0x183, 0x185, 2), (0x188, 0x188, 1), (0x18C, 0x18C, 1), (0x192, 0x192, 1), (0x195, 0x195, 1),
  (0x199, 0x19B, 1), (0x19E, 0x19E, 1), (0x1A1, 0x1A5, 2), (0x1A8, 0x1A8, 1), (0x1AD, 0x1AD, 1),
  (0x1B0, 0x1B0, 1), (0x1B4, 0x1B6, 2), (0x1B9, 0x1B9, 1), (0x1BD, 0x1BF, 2), (0x1C5, 0x1C6, 1),
  (0x1C8, 0x1C9, 1), (0x1CB, 0x1CC, 1), (0x1CE, 0x1DA, 2), (0x1DC, 0x1DD, 1), (0x1DF, 0x1ED, 2),
  (0x1EF, 0x1F0, 1), (0x1F2, 0x1F3, 1), (0x1F5, 0x1F5, 1), (0x1F9, 0x21F, 2), (0x223, 0x233, 2),
  (0x23C, 0x23C, 1), (0x23F, 0x240, 1), (0x242, 0x242, 1), (0x247, 0x24D, 2), (0x24F, 0x254, 1),
  (0x256, 0x257, 1), (0x259, 0x259, 1), (0x25B, 0x25C, 1), (0x260, 0x261, 1), (0x263, 0x266, 1),
  (0x268, 0x26C, 1), (0x26F, 0x26F, 1), (0x271, 0x272, 1), (0x275, 0x275, 1), (0x27D, 0x27D, 1),
  (0x280, 0x280, 1), (0x282, 0x283, 1), (0x287, 0x28C, 1), (0x292, 0x292, 1), (0x29D, 0x29E, 1),
  (0x345, 0x345, 1), (0x371, 0x373, 2), (0x377, 0x377, 1), (0x37B, 0x37D, 1), (0x390, 0x390, 1),
  (0x3AC, 0x3CE, 1), (0x3D0, 0x3D1, 1), (0x3D5, 0x3D7, 1), (0x3D9, 0x3ED, 2), (0x3EF, 0x3F3, 1),
  (0x3F5, 0x3F5, 1), (0x3F8, 0x3F8, 1), (0x3FB, 0x3FB, 1), (0x430, 0x45F, 1), (0x461, 0x481, 2),
  (0x48B, 0x4BF, 2), (0x4C2, 0x4CC, 2), (0x4CE, 0x4CF, 1), (0x4D1, 0x52F, 2), (0x561, 0x587, 1),
  (0x10D0, 0x10FA, 1), (0x10FD, 0x10FF, 1), (0x13F8, 0x13FD, 1), (0x1C80, 0x1C88, 1),
  (0x1C8A, 0x1C8A, 1), (0x1D79, 0x1D79, 1), (0x1D7D, 0x1D7D, 1), (0x1D8E, 0x1D8E, 1),
  (0x1E01, 0x1E93, 2), (0x1E95, 0x1E9B, 1), (0x1EA1, 0x1EFD, 2), (0x1EFF, 0x1F07, 1),
  (0x1F10, 0x1F15, 1), (0x1F20, 0x1F27, 1), (0x1F30, 0x1F37, 1), (0x1F40, 0x1F45, 1),
  (0x1F50, 0x1F57, 1), (0x1F60, 0x1F67, 1), (0x1F70, 0x1F7D, 1), (0x1F80, 0x1FB4, 1),
  (0x1FB6, 0x1FB7, 1), (0x1FBC, 0x1FBE, 2), (0x1FC2, 0x1FC4, 1), (0x1FC6, 0x1FC7, 1),
  (0x1FCC, 0x1FCC, 1), (0x1FD0, 0x1FD3, 1), (0x1FD6, 0x1FD7, 1), (0x1FE0, 0x1FE7, 1),
  (0x1FF2, 0x1FF4, 1), (0x1FF6, 0x1FF7, 1), (0x1FFC, 0x1FFC, 1), (0x214E, 0x214E, 1),
  (0x2170, 0x217F, 1), (0x2184, 0x2184, 1), (0x24D0, 0x24E9, 1), (0x2C30, 0x2C5F, 1),
  (0x2C61, 0x2C61, 1), (0x2C65, 0x2C66, 1), (0x2C68, 0x2C6C, 2), (0x2C73, 0x2C73, 1),
  (0x2C76, 0x2C76, 1), (0x2C81, 0x2CE3, 2), (0x2CEC, 0x2CEE, 2), (0x2CF3, 0x2CF3, 1),
  (0x2D00, 0x2D25, 1), (0x2D27, 0x2D27, 1), (0x2D2D, 0x2D2D, 1), (0xA641, 0xA66D, 2),
  (0xA681, 0xA69B, 2), (0xA723, 0xA72F, 2), (0xA733, 0xA76F, 2), (0xA77A, 0xA77C, 2),
  (0xA77F, 0xA787, 2), (0xA78C, 0xA78C, 1), (0xA791, 0xA791, 1), (0xA793, 0xA794, 1),
  (0xA797, 0xA7A9, 2), (0xA7B5, 0xA7C3, 2), (0xA7C8, 0xA7CA, 2), (0xA7CD, 0xA7DB, 2),
  (0xA7F6, 0xA7F6, 1), (0xAB53, 0xAB53, 1), (0xAB70, 0xABBF, 1), (0xFB00, 0xFB06, 1),
  (0xFB13, 0xFB17, 1), (0xFF41, 0xFF5A, 1), (0x10428, 0x1044F, 1), (0x104D8, 0x104FB, 1),
  (0x10597, 0x105A1, 1), (0x105A3, 0x105B1, 1), (0x105B3, 0x105B9, 1), (0x105BB, 0x105BC, 1),
  (0x10CC0, 0x10CF2, 1), (0x10D70, 0x10D85, 1), (0x118C0, 0x118DF, 1), (0x16E60, 0x16E7F, 1),
  (0x16EBB, 0x16ED3, 1), (0x1E922, 0x1E943, 1)]

/-- Characters that title case changes and upper case keeps. -/
def titledOnlyTable : CodeTable := #[
  (0x1C4, 0x1C4, 1), (0x1C7, 0x1C7, 1), (0x1CA, 0x1CA, 1), (0x1F1, 0x1F1, 1)]

/-- Characters that upper case changes and title case keeps. -/
def upperedOnlyTable : CodeTable := #[
  (0x1C5, 0x1C5, 1), (0x1C8, 0x1C8, 1), (0x1CB, 0x1CB, 1), (0x1F2, 0x1F2, 1), (0x10D0, 0x10FA, 1),
  (0x10FD, 0x10FF, 1), (0x1F88, 0x1F8F, 1), (0x1F98, 0x1F9F, 1), (0x1FA8, 0x1FAF, 1),
  (0x1FBC, 0x1FBC, 1), (0x1FCC, 0x1FCC, 1), (0x1FFC, 0x1FFC, 1)]

def foldedTable : CodeTable := #[
  (0x41, 0x5A, 1), (0xB5, 0xB5, 1), (0xC0, 0xD6, 1), (0xD8, 0xDF, 1), (0x100, 0x136, 2),
  (0x139, 0x147, 2), (0x149, 0x14A, 1), (0x14C, 0x176, 2), (0x178, 0x179, 1), (0x17B, 0x17F, 2),
  (0x181, 0x182, 1), (0x184, 0x184, 1), (0x186, 0x187, 1), (0x189, 0x18B, 1), (0x18E, 0x191, 1),
  (0x193, 0x194, 1), (0x196, 0x198, 1), (0x19C, 0x19D, 1), (0x19F, 0x1A0, 1), (0x1A2, 0x1A4, 2),
  (0x1A6, 0x1A7, 1), (0x1A9, 0x1A9, 1), (0x1AC, 0x1AC, 1), (0x1AE, 0x1AF, 1), (0x1B1, 0x1B3, 1),
  (0x1B5, 0x1B5, 1), (0x1B7, 0x1B8, 1), (0x1BC, 0x1BC, 1), (0x1C4, 0x1C5, 1), (0x1C7, 0x1C8, 1),
  (0x1CA, 0x1CB, 1), (0x1CD, 0x1DB, 2), (0x1DE, 0x1EE, 2), (0x1F1, 0x1F2, 1), (0x1F4, 0x1F4, 1),
  (0x1F6, 0x1F8, 1), (0x1FA, 0x232, 2), (0x23A, 0x23B, 1), (0x23D, 0x23E, 1), (0x241, 0x241, 1),
  (0x243, 0x246, 1), (0x248, 0x24E, 2), (0x345, 0x345, 1), (0x370, 0x372, 2), (0x376, 0x376, 1),
  (0x37F, 0x37F, 1), (0x386, 0x386, 1), (0x388, 0x38A, 1), (0x38C, 0x38C, 1), (0x38E, 0x38F, 1),
  (0x391, 0x3A1, 1), (0x3A3, 0x3AB, 1), (0x3C2, 0x3C2, 1), (0x3CF, 0x3D1, 1), (0x3D5, 0x3D6, 1),
  (0x3D8, 0x3EE, 2), (0x3F0, 0x3F1, 1), (0x3F4, 0x3F5, 1), (0x3F7, 0x3F7, 1), (0x3F9, 0x3FA, 1),
  (0x3FD, 0x42F, 1), (0x460, 0x480, 2), (0x48A, 0x4BE, 2), (0x4C0, 0x4C1, 1), (0x4C3, 0x4CD, 2),
  (0x4D0, 0x52E, 2), (0x531, 0x556, 1), (0x587, 0x587, 1), (0x10A0, 0x10C5, 1), (0x10C7, 0x10C7, 1),
  (0x10CD, 0x10CD, 1), (0x13F8, 0x13FD, 1), (0x1C80, 0x1C89, 1), (0x1C90, 0x1CBA, 1),
  (0x1CBD, 0x1CBF, 1), (0x1E00, 0x1E94, 2), (0x1E9A, 0x1E9B, 1), (0x1E9E, 0x1EFE, 2),
  (0x1F08, 0x1F0F, 1), (0x1F18, 0x1F1D, 1), (0x1F28, 0x1F2F, 1), (0x1F38, 0x1F3F, 1),
  (0x1F48, 0x1F4D, 1), (0x1F59, 0x1F5F, 2), (0x1F68, 0x1F6F, 1), (0x1F80, 0x1FAF, 1),
  (0x1FB2, 0x1FB4, 1), (0x1FB7, 0x1FBC, 1), (0x1FC2, 0x1FC4, 1), (0x1FC7, 0x1FCC, 1),
  (0x1FD8, 0x1FDB, 1), (0x1FE8, 0x1FEC, 1), (0x1FF2, 0x1FF4, 1), (0x1FF7, 0x1FFC, 1),
  (0x2126, 0x2126, 1), (0x212A, 0x212B, 1), (0x2132, 0x2132, 1), (0x2160, 0x216F, 1),
  (0x2183, 0x2183, 1), (0x24B6, 0x24CF, 1), (0x2C00, 0x2C2F, 1), (0x2C60, 0x2C60, 1),
  (0x2C62, 0x2C64, 1), (0x2C67, 0x2C6B, 2), (0x2C6D, 0x2C70, 1), (0x2C72, 0x2C72, 1),
  (0x2C75, 0x2C75, 1), (0x2C7E, 0x2C80, 1), (0x2C82, 0x2CE2, 2), (0x2CEB, 0x2CED, 2),
  (0x2CF2, 0x2CF2, 1), (0xA640, 0xA66C, 2), (0xA680, 0xA69A, 2), (0xA722, 0xA72E, 2),
  (0xA732, 0xA76E, 2), (0xA779, 0xA77B, 2), (0xA77D, 0xA77E, 1), (0xA780, 0xA786, 2),
  (0xA78B, 0xA78D, 2), (0xA790, 0xA792, 2), (0xA796, 0xA7A8, 2), (0xA7AA, 0xA7AE, 1),
  (0xA7B0, 0xA7B4, 1), (0xA7B6, 0xA7C2, 2), (0xA7C4, 0xA7C7, 1), (0xA7C9, 0xA7C9, 1),
  (0xA7CB, 0xA7CC, 1), (0xA7CE, 0xA7DC, 2), (0xA7F5, 0xA7F5, 1), (0xAB70, 0xABBF, 1),
  (0xFB00, 0xFB06, 1), (0xFB13, 0xFB17, 1), (0xFF21, 0xFF3A, 1), (0x10400, 0x10427, 1),
  (0x104B0, 0x104D3, 1), (0x10570, 0x1057A, 1), (0x1057C, 0x1058A, 1), (0x1058C, 0x10592, 1),
  (0x10594, 0x10595, 1), (0x10C80, 0x10CB2, 1), (0x10D50, 0x10D65, 1), (0x118A0, 0x118BF, 1),
  (0x16E40, 0x16E5F, 1), (0x16EA0, 0x16EB8, 1), (0x1E900, 0x1E921, 1)]

end CharProperty
end RecordFilter
