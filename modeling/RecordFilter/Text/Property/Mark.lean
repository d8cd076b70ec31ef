import RecordFilter.Text.CodeTable

/-!
# Marks and controls by property

Characters that attach themselves to others, steer the direction or the shape of text,
or do not show.
-/

namespace RecordFilter

namespace CharProperty

set_option maxRecDepth 8000

/-- Characters that extend the one before them though they are no marks without width. -/
def otherExtendTable : CodeTable := #[
  (0x9BE, 0x9BE, 1), (0x9D7, 0x9D7, 1), (0xB3E, 0xB3E, 1), (0xB57, 0xB57, 1), (0xBBE, 0xBBE, 1),
  (0xBD7, 0xBD7, 1), (0xCC0, 0xCC2, 2), (0xCC7, 0xCC8, 1), (0xCCA, 0xCCB, 1), (0xCD5, 0xCD6, 1),
  (0xD3E, 0xD3E, 1), (0xD57, 0xD57, 1), (0xDCF, 0xDCF, 1), (0xDDF, 0xDDF, 1), (0x1715, 0x1715, 1),
  (0x1734, 0x1734, 1), (0x1B35, 0x1B35, 1), (0x1B3B, 0x1B3D, 2), (0x1B43, 0x1B44, 1),
  (0x1BAA, 0x1BAA, 1), (0x1BF2, 0x1BF3, 1), (0x200C, 0x200C, 1), (0x302E, 0x302F, 1),
  (0xA953, 0xA953, 1), (0xA9C0, 0xA9C0, 1), (0xFF9E, 0xFF9F, 1), (0x111C0, 0x111C0, 1),
  (0x11235, 0x11235, 1), (0x1133E, 0x1133E, 1), (0x1134D, 0x1134D, 1), (0x11357, 0x11357, 1),
  (0x113B8, 0x113B8, 1), (0x113C2, 0x113C2, 1), (0x113C5, 0x113C5, 1), (0x113C7, 0x113C9, 1),
  (0x113CF, 0x113CF, 1), (0x114B0, 0x114B0, 1), (0x114BD, 0x114BD, 1), (0x115AF, 0x115AF, 1),
  (0x116B6, 0x116B6, 1), (0x11930, 0x11930, 1), (0x1193D, 0x1193D, 1), (0x11F41, 0x11F41, 1),
  (0x16FF0, 0x16FF1, 1), (0x1D165, 0x1D166, 1), (0x1D16D, 0x1D172, 1), (0xE0020, 0xE007F, 1)]

/-- Signs that silence the vowel of a consonant and so link it to the next one. -/
def graphemeLinkTable : CodeTable := #[
  (0x94D, 0x94D, 1), (0x9CD, 0x9CD, 1), (0xA4D, 0xA4D, 1), (0xACD, 0xACD, 1), (0xB4D, 0xB4D, 1),
  (0xBCD, 0xBCD, 1), (0xC4D, 0xC4D, 1), (0xCCD, 0xCCD, 1), (0xD3B, 0xD3C, 1), (0xD4D, 0xD4D, 1),
  (0xDCA, 0xDCA, 1), (0xE3A, 0xE3A, 1), (0xEBA, 0xEBA, 1), (0xF84, 0xF84, 1), (0x1039, 0x103A, 1),
  (0x1714, 0x1715, 1), (0x1734, 0x1734, 1), (0x17D2, 0x17D2, 1), (0x1A60, 0x1A60, 1),
  (0x1B44, 0x1B44, 1), (0x1BAA, 0x1BAB, 1), (0x1BF2, 0x1BF3, 1), (0x2D7F, 0x2D7F, 1),
  (0xA806, 0xA806, 1), (0xA82C, 0xA82C, 1), (0xA8C4, 0xA8C4, 1), (0xA953, 0xA953, 1),
  (0xA9C0, 0xA9C0, 1), (0xAAF6, 0xAAF6, 1), (0xABED, 0xABED, 1), (0x10A3F, 0x10A3F, 1),
  (0x11046, 0x11046, 1), (0x11070, 0x11070, 1), (0x1107F, 0x1107F, 1), (0x110B9, 0x110B9, 1),
  (0x11133, 0x11134, 1), (0x111C0, 0x111C0, 1), (0x11235, 0x11235, 1), (0x112EA, 0x112EA, 1),
  (0x1134D, 0x1134D, 1), (0x113CE, 0x113D0, 1), (0x11442, 0x11442, 1), (0x114C2, 0x114C2, 1),
  (0x115BF, 0x115BF, 1), (0x1163F, 0x1163F, 1), (0x116B6, 0x116B6, 1), (0x1172B, 0x1172B, 1),
  (0x11839, 0x11839, 1), (0x1193D, 0x1193E, 1), (0x119E0, 0x119E0, 1), (0x11A34, 0x11A34, 1),
  (0x11A47, 0x11A47, 1), (0x11A99, 0x11A99, 1), (0x11C3F, 0x11C3F, 1), (0x11D44, 0x11D45, 1),
  (0x11D97, 0x11D97, 1), (0x11F41, 0x11F42, 1), (0x1612F, 0x1612F, 1)]

def diacriticTable : CodeTable := #[
  (0x5E, 0x60, 2), (0xA8, 0xA8, 1), (0xAF, 0xAF, 1), (0xB4, 0xB4, 1), (0xB7, 0xB8, 1),
  (0x2B0, 0x34E, 1), (0x350, 0x357, 1), (0x35D, 0x362, 1), (0x374, 0x375, 1), (0x37A, 0x37A, 1),
  (0x384, 0x385, 1), (0x483, 0x487, 1), (0x559, 0x559, 1), (0x591, 0x5BD, 1), (0x5BF, 0x5BF, 1),
  (0x5C1, 0x5C2, 1), (0x5C4, 0x5C5, 1), (0x5C7, 0x5C7, 1), (0x64B, 0x652, 1), (0x657, 0x658, 1),
  (0x6DF, 0x6E0, 1), (0x6E5, 0x6E6, 1), (0x6EA, 0x6EC, 1), (0x730, 0x74A, 1), (0x7A6, 0x7B0, 1),
  (0x7EB, 0x7F5, 1), (0x818, 0x819, 1), (0x898, 0x89F, 1), (0x8C9, 0x8D2, 1), (0x8E3, 0x8FE, 1),
  (0x93C, 0x93C, 1), (0x94D, 0x94D, 1), (0x951, 0x954, 1), (0x971, 0x971, 1), (0x9BC, 0x9BC, 1),
  (0x9CD, 0x9CD, 1), (0xA3C, 0xA3C, 1), (0xA4D, 0xA4D, 1), (0xABC, 0xABC, 1), (0xACD, 0xACD, 1),
  (0xAFD, 0xAFF, 1), (0xB3C, 0xB3C, 1), (0xB4D, 0xB4D, 1), (0xB55, 0xB55, 1), (0xBCD, 0xBCD, 1),
  (0xC3C, 0xC3C, 1), (0xC4D, 0xC4D, 1), (0xCBC, 0xCBC, 1), (0xCCD, 0xCCD, 1), (0xD3B, 0xD3C, 1),
  (0xD4D, 0xD4D, 1), (0xDCA, 0xDCA, 1), (0xE3A, 0xE3A, 1), (0xE47, 0xE4C, 1), (0xE4E, 0xE4E, 1),
  (0xEBA, 0xEBA, 1), (0xEC8, 0xECC, 1), (0xF18, 0xF19, 1), (0xF35, 0xF39, 2), (0xF3E, 0xF3F, 1),
  (0xF82, 0xF84, 1), (0xF86, 0xF87, 1), (0xFC6, 0xFC6, 1), (0x1037, 0x1037, 1), (0x1039, 0x103A, 1),
  (0x1063, 0x1064, 1), (0x1069, 0x106D, 1), (0x1087, 0x108D, 1), (0x108F, 0x108F, 1),
  (0x109A, 0x109B, 1), (0x135D, 0x135F, 1), (0x1714, 0x1715, 1), (0x1734, 0x1734, 1),
  (0x17C9, 0x17D3, 1), (0x17DD, 0x17DD, 1), (0x1939, 0x193B, 1), (0x1A60, 0x1A60, 1),
  (0x1A75, 0x1A7C, 1), (0x1A7F, 0x1A7F, 1), (0x1AB0, 0x1ABE, 1), (0x1AC1, 0x1ACB, 1),
  (0x1ACF, 0x1ADD, 1), (0x1AE0, 0x1AEB, 1), (0x1B34, 0x1B34, 1), (0x1B44, 0x1B44, 1),
  (0x1B6B, 0x1B73, 1), (0x1BAA, 0x1BAB, 1), (0x1BE6, 0x1BE6, 1), (0x1BF2, 0x1BF3, 1),
  (0x1C36, 0x1C37, 1), (0x1C78, 0x1C7D, 1), (0x1CD0, 0x1CE8, 1), (0x1CED, 0x1CED, 1),
  (0x1CF4, 0x1CF4, 1), (0x1CF7, 0x1CF9, 1), (0x1D2C, 0x1D6A, 1), (0x1D9B, 0x1DBE, 1),
  (0x1DC4, 0x1DCF, 1), (0x1DF5, 0x1DFF, 1), (0x1FBD, 0x1FBD, 1), (0x1FBF, 0x1FC1, 1),
  (0x1FCD, 0x1FCF, 1), (0x1FDD, 0x1FDF, 1), (0x1FED, 0x1FEF, 1), (0x1FFD, 0x1FFE, 1),
  (0x2CEF, 0x2CF1, 1), (0x2E2F, 0x2E2F, 1), (0x302A, 0x302F, 1), (0x3099, 0x309C, 1),
  (0x30FC, 0x30FC, 1), (0xA66F, 0xA66F, 1), (0xA67C, 0xA67D, 1), (0xA67F, 0xA67F, 1),
  (0xA69C, 0xA69D, 1), (0xA6F0, 0xA6F1, 1), (0xA700, 0xA721, 1), (0xA788, 0xA78A, 1),
  (0xA7F1, 0xA7F1, 1), (0xA7F8, 0xA7F9, 1), (0xA806, 0xA806, 1), (0xA82C, 0xA82C, 1),
  (0xA8C4, 0xA8C4, 1), (0xA8E0, 0xA8F1, 1), (0xA92B, 0xA92E, 1), (0xA953, 0xA953, 1),
  (0xA9B3, 0xA9B3, 1), (0xA9C0, 0xA9C0, 1), (0xA9E5, 0xA9E5, 1), (0xAA7B, 0xAA7D, 1),
  (0xAABF, 0xAAC2, 1), (0xAAF6, 0xAAF6, 1), (0xAB5B, 0xAB5F, 1), (0xAB69, 0xAB6B, 1),
  (0xABEC, 0xABED, 1), (0xFB1E, 0xFB1E, 1), (0xFE20, 0xFE2F, 1), (0xFF3E, 0xFF40, 2),
  (0xFF70, 0xFF70, 1), (0xFF9E, 0xFF9F, 1), (0xFFE3, 0xFFE3, 1), (0x102E0, 0x102E0, 1),
  (0x10780, 0x10785, 1), (0x10787, 0x107B0, 1), (0x107B2, 0x107BA, 1), (0x10A38, 0x10A3A, 1),
  (0x10A3F, 0x10A3F, 1), (0x10AE5, 0x10AE6, 1), (0x10D22, 0x10D27, 1), (0x10D4E, 0x10D4E, 1),
  (0x10D69, 0x10D6D, 1), (0x10EFA, 0x10EFA, 1), (0x10EFD, 0x10EFF, 1), (0x10F46, 0x10F50, 1),
  (0x10F82, 0x10F85, 1), (0x11046, 0x11046, 1), (0x11070, 0x11070, 1), (0x110B9, 0x110BA, 1),
  (0x11133, 0x11134, 1), (0x11173, 0x11173, 1), (0x111C0, 0x111C0, 1), (0x111CA, 0x111CC, 1),
  (0x11235, 0x11236, 1), (0x112E9, 0x112EA, 1), (0x1133B, 0x1133C, 1), (0x1134D, 0x1134D, 1),
  (0x11366, 0x1136C, 1), (0x11370, 0x11374, 1), (0x113CE, 0x113D0, 1), (0x113D2, 0x113D3, 1),
  (0x113E1, 0x113E2, 1), (0x11442, 0x11442, 1), (0x11446, 0x11446, 1), (0x114C2, 0x114C3, 1),
  (0x115BF, 0x115C0, 1), (0x1163F, 0x1163F, 1), (0x116B6, 0x116B7, 1), (0x1172B, 0x1172B, 1),
  (0x11839, 0x1183A, 1), (0x1193D, 0x1193E, 1), (0x11943, 0x11943, 1), (0x119E0, 0x119E0, 1),
  (0x11A34, 0x11A34, 1), (0x11A47, 0x11A47, 1), (0x11A99, 0x11A99, 1), (0x11C3F, 0x11C3F, 1),
  (0x11D42, 0x11D42, 1), (0x11D44, 0x11D45, 1), (0x11D97, 0x11D97, 1), (0x11DD9, 0x11DD9, 1),
  (0x11F41, 0x11F42, 1), (0x11F5A, 0x11F5A, 1), (0x13447, 0x13455, 1), (0x1612F, 0x1612F, 1),
  (0x16AF0, 0x16AF4, 1), (0x16B30, 0x16B36, 1), (0x16D6B, 0x16D6C, 1), (0x16F8F, 0x16F9F, 1),
  (0x16FF0, 0x16FF1, 1), (0x1AFF0, 0x1AFF3, 1), (0x1AFF5, 0x1AFFB, 1), (0x1AFFD, 0x1AFFE, 1),
  (0x1CF00, 0x1CF2D, 1), (0x1CF30, 0x1CF46, 1), (0x1D167, 0x1D169, 1), (0x1D16D, 0x1D172, 1),
  (0x1D17B, 0x1D182, 1), (0x1D185, 0x1D18B, 1), (0x1D1AA, 0x1D1AD, 1), (0x1E030, 0x1E06D, 1),
  (0x1E130, 0x1E136, 1), (0x1E2AE, 0x1E2AE, 1), (0x1E2EC, 0x1E2EF, 1), (0x1E5EE, 0x1E5EF, 1),
  (0x1E8D0, 0x1E8D6, 1), (0x1E944, 0x1E946, 1), (0x1E948, 0x1E94A, 1)]

def extenderTable : CodeTable := #[
  (0xB7, 0xB7, 1), (0x2D0, 0x2D1, 1), (0x640, 0x640, 1), (0x7FA, 0x7FA, 1), (0xA71, 0xA71, 1),
  (0xAFB, 0xAFB, 1), (0xB55, 0xB55, 1), (0xE46, 0xE46, 1), (0xEC6, 0xEC6, 1), (0x180A, 0x180A, 1),
  (0x1843, 0x1843, 1), (0x1AA7, 0x1AA7, 1), (0x1C36, 0x1C36, 1), (0x1C7B, 0x1C7B, 1),
  (0x3005, 0x3005, 1), (0x3031, 0x3035, 1), (0x309D, 0x309E, 1), (0x30FC, 0x30FE, 1),
  (0xA015, 0xA015, 1), (0xA60C, 0xA60C, 1), (0xA9CF, 0xA9CF, 1), (0xA9E6, 0xA9E6, 1),
  (0xAA70, 0xAA70, 1), (0xAADD, 0xAADD, 1), (0xAAF3, 0xAAF4, 1), (0xFF70, 0xFF70, 1),
  (0x10781, 0x10782, 1), (0x10D4E, 0x10D4E, 1), (0x10D6A, 0x10D6A, 1), (0x10D6F, 0x10D6F, 1),
  (0x11237, 0x11237, 1), (0x1135D, 0x1135D, 1), (0x113D2, 0x113D3, 1), (0x115C6, 0x115C8, 1),
  (0x11A98, 0x11A98, 1), (0x11DD9, 0x11DD9, 1), (0x16B42, 0x16B43, 1), (0x16FE0, 0x16FE1, 1),
  (0x16FE3, 0x16FE3, 1), (0x16FF2, 0x16FF3, 1), (0x1E13C, 0x1E13D, 1), (0x1E5EF, 0x1E5EF, 1),
  (0x1E944, 0x1E946, 1)]

def modifierCombiningTable : CodeTable := #[
  (0x654, 0x655, 1), (0x658, 0x658, 1), (0x6DC, 0x6DC, 1), (0x6E3, 0x6E3, 1), (0x6E7, 0x6E8, 1),
  (0x8CA, 0x8CB, 1), (0x8CD, 0x8CF, 1), (0x8D3, 0x8D3, 1), (0x8F3, 0x8F3, 1)]

/-- Characters that are not shown though they are no format controls. -/
def otherDefaultIgnorableTable : CodeTable := #[
  (0x34F, 0x34F, 1), (0x115F, 0x1160, 1), (0x17B4, 0x17B5, 1), (0x2065, 0x2065, 1),
  (0x3164, 0x3164, 1), (0xFFA0, 0xFFA0, 1), (0xFFF0, 0xFFF8, 1), (0xE0000, 0xE0000, 1),
  (0xE0002, 0xE001F, 1), (0xE0080, 0xE00FF, 1), (0xE01F0, 0xE0FFF, 1)]

/-- Format controls that are shown if they are not supported. -/
def shownFormatTable : CodeTable := #[
  (0xFFF9, 0xFFFB, 1), (0x13430, 0x13440, 1)]

/-- Signs that span the digits after them. -/
def prependedMarkTable : CodeTable := #[
  (0x600, 0x605, 1), (0x6DD, 0x6DD, 1), (0x70F, 0x70F, 1), (0x890, 0x891, 1), (0x8E2, 0x8E2, 1),
  (0x110BD, 0x110BD, 1), (0x110CD, 0x110CD, 1)]

def variationSelectorTable : CodeTable := #[
  (0x180B, 0x180D, 1), (0x180F, 0x180F, 1), (0xFE00, 0xFE0F, 1), (0xE0100, 0xE01EF, 1)]

def bidiControlTable : CodeTable := #[
  (0x61C, 0x61C, 1), (0x200E, 0x200F, 1), (0x202A, 0x202E, 1), (0x2066, 0x2069, 1)]

def deprecatedTable : CodeTable := #[
  (0x149, 0x149, 1), (0x673, 0x673, 1), (0xF77, 0xF79, 2), (0x17A3, 0x17A4, 1), (0x206A, 0x206F, 1),
  (0x2329, 0x232A, 1), (0xE0001, 0xE0001, 1)]

def noncharacterTable : CodeTable := #[
  (0xFDD0, 0xFDEF, 1), (0xFFFE, 0xFFFF, 1), (0x1FFFE, 0x1FFFF, 1), (0x2FFFE, 0x2FFFF, 1),
  (0x3FFFE, 0x3FFFF, 1), (0x4FFFE, 0x4FFFF, 1), (0x5FFFE, 0x5FFFF, 1), (0x6FFFE, 0x6FFFF, 1),
  (0x7FFFE, 0x7FFFF, 1), (0x8FFFE, 0x8FFFF, 1), (0x9FFFE, 0x9FFFF, 1), (0xAFFFE, 0xAFFFF, 1),
  (0xBFFFE, 0xBFFFF, 1), (0xCFFFE, 0xCFFFF, 1), (0xDFFFE, 0xDFFFF, 1), (0xEFFFE, 0xEFFFF, 1),
  (0xFFFFE, 0xFFFFF, 1), (0x10FFFE, 0x10FFFF, 1)]

end CharProperty
end RecordFilter
