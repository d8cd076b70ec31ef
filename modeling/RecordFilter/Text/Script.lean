import RecordFilter.Text.CodeTable

/-!
# Scripts

The writing systems that characters belong to, each with its names and its
characters.
-/

namespace RecordFilter

structure Script where
  names : List String
  table : CodeTable

namespace Script

set_option maxRecDepth 8000

def adlamScript : Script where
  names := ["adlam", "adlm"]
  table := #[
    (0x1E900, 0x1E94B, 1), (0x1E950, 0x1E959, 1), (0x1E95E, 0x1E95F, 1)]

def ahomScript : Script where
  names := ["ahom"]
  table := #[
    (0x11700, 0x1171A, 1), (0x1171D, 0x1172B, 1), (0x11730, 0x11746, 1)]

def anatolianHieroglyphsScript : Script where
  names := ["anatolianhieroglyphs", "hluw"]
  table := #[
    (0x14400, 0x14646, 1)]

def arabicScript : Script where
  names := ["arabic", "arab"]
  table := #[
    (0x600, 0x604, 1), (0x606, 0x60B, 1), (0x60D, 0x61A, 1), (0x61C, 0x61E, 1),
    (0x620, 0x63F, 1), (0x641, 0x64A, 1), (0x656, 0x66F, 1), (0x671, 0x6DC, 1),
    (0x6DE, 0x6FF, 1), (0x750, 0x77F, 1), (0x870, 0x891, 1), (0x897, 0x8E1, 1),
    (0x8E3, 0x8FF, 1), (0xFB50, 0xFD3D, 1), (0xFD40, 0xFDCF, 1), (0xFDF0, 0xFDFF, 1),
    (0xFE70, 0xFE74, 1), (0xFE76, 0xFEFC, 1), (0x10E60, 0x10E7E, 1), (0x10EC2, 0x10EC7, 1),
    (0x10ED0, 0x10ED8, 1), (0x10EFA, 0x10EFF, 1), (0x1EE00, 0x1EE03, 1), (0x1EE05, 0x1EE1F, 1),
    (0x1EE21, 0x1EE22, 1), (0x1EE24, 0x1EE24, 1), (0x1EE27, 0x1EE27, 1), (0x1EE29, 0x1EE32, 1),
    (0x1EE34, 0x1EE37, 1), (0x1EE39, 0x1EE39, 1), (0x1EE3B, 0x1EE3B, 1), (0x1EE42, 0x1EE42, 1),
    (0x1EE47, 0x1EE47, 1), (0x1EE49, 0x1EE49, 1), (0x1EE4B, 0x1EE4B, 1), (0x1EE4D, 0x1EE4F, 1),
    (0x1EE51, 0x1EE52, 1), (0x1EE54, 0x1EE54, 1), (0x1EE57, 0x1EE57, 1), (0x1EE59, 0x1EE59, 1),
    (0x1EE5B, 0x1EE5B, 1), (0x1EE5D, 0x1EE5D, 1), (0x1EE5F, 0x1EE5F, 1), (0x1EE61, 0x1EE62, 1),
    (0x1EE64, 0x1EE64, 1), (0x1EE67, 0x1EE6A, 1), (0x1EE6C, 0x1EE72, 1), (0x1EE74, 0x1EE77, 1),
    (0x1EE79, 0x1EE7C, 1), (0x1EE7E, 0x1EE7E, 1), (0x1EE80, 0x1EE89, 1), (0x1EE8B, 0x1EE9B, 1),
    (0x1EEA1, 0x1EEA3, 1), (0x1EEA5, 0x1EEA9, 1), (0x1EEAB, 0x1EEBB, 1), (0x1EEF0, 0x1EEF1, 1)]

def armenianScript : Script where
  names := ["armenian", "armn"]
  table := #[
    (0x531, 0x556, 1), (0x559, 0x58A, 1), (0x58D, 0x58F, 1), (0xFB13, 0xFB17, 1)]

def avestanScript : Script where
  names := ["avestan", "avst"]
  table := #[
    (0x10B00, 0x10B35, 1), (0x10B39, 0x10B3F, 1)]

def balineseScript : Script where
  names := ["balinese", "bali"]
  table := #[
    (0x1B00, 0x1B4C, 1), (0x1B4E, 0x1B7F, 1)]

def bamumScript : Script where
  names := ["bamum", "bamu"]
  table := #[
    (0xA6A0, 0xA6F7, 1), (0x16800, 0x16A38, 1)]

def bassaVahScript : Script where
  names := ["bassavah", "bass"]
  table := #[
    (0x16AD0, 0x16AED, 1), (0x16AF0, 0x16AF5, 1)]

def batakScript : Script where
  names := ["batak", "batk"]
  table := #[
    (0x1BC0, 0x1BF3, 1), (0x1BFC, 0x1BFF, 1)]

def bengaliScript : Script where
  names := ["bengali", "beng"]
  table := #[
    (0x980, 0x983, 1), (0x985, 0x98C, 1), (0x98F, 0x990, 1), (0x993, 0x9A8, 1),
    (0x9AA, 0x9B0, 1), (0x9B2, 0x9B2, 1), (0x9B6, 0x9B9, 1), (0x9BC, 0x9C4, 1),
    (0x9C7, 0x9C8, 1), (0x9CB, 0x9CE, 1), (0x9D7, 0x9D7, 1), (0x9DC, 0x9DD, 1),
    (0x9DF, 0x9E3, 1), (0x9E6, 0x9FE, 1)]

def beriaErfeScript : Script where
  names := ["beriaerfe", "berf"]
  table := #[
    (0x16EA0, 0x16EB8, 1), (0x16EBB, 0x16ED3, 1)]

def bhaiksukiScript : Script where
  names := ["bhaiksuki", "bhks"]
  table := #[
    (0x11C00, 0x11C08, 1), (0x11C0A, 0x11C36, 1), (0x11C38, 0x11C45, 1), (0x11C50, 0x11C6C, 1)]

def bopomofoScript : Script where
  names := ["bopomofo", "bopo"]
  table := #[
    (0x2EA, 0x2EB, 1), (0x3105, 0x312F, 1), (0x31A0, 0x31BF, 1)]

def brahmiScript : Script where
  names := ["brahmi", "brah"]
  table := #[
    (0x11000, 0x1104D, 1), (0x11052, 0x11075, 1), (0x1107F, 0x1107F, 1)]

def brailleScript : Script where
  names := ["braille", "brai"]
  table := #[
    (0x2800, 0x28FF, 1)]

def bugineseScript : Script where
  names := ["buginese", "bugi"]
  table := #[
    (0x1A00, 0x1A1B, 1), (0x1A1E, 0x1A1F, 1)]

def buhidScript : Script where
  names := ["buhid", "buhd"]
  table := #[
    (0x1740, 0x1753, 1)]

def canadianAboriginalScript : Script where
  names := ["canadianaboriginal", "cans"]
  table := #[
    (0x1400, 0x167F, 1), (0x18B0, 0x18F5, 1), (0x11AB0, 0x11ABF, 1)]

def carianScript : Script where
  names := ["carian", "cari"]
  table := #[
    (0x102A0, 0x102D0, 1)]

def caucasianAlbanianScript : Script where
  names := ["caucasianalbanian", "aghb"]
  table := #[
    (0x10530, 0x10563, 1), (0x1056F, 0x1056F, 1)]

def chakmaScript : Script where
  names := ["chakma", "cakm"]
  table := #[
    (0x11100, 0x11134, 1), (0x11136, 0x11147, 1)]

def chamScript : Script where
  names := ["cham"]
  table := #[
    (0xAA00, 0xAA36, 1), (0xAA40, 0xAA4D, 1), (0xAA50, 0xAA59, 1), (0xAA5C, 0xAA5F, 1)]

def cherokeeScript : Script where
  names := ["cherokee", "cher"]
  table := #[
    (0x13A0, 0x13F5, 1), (0x13F8, 0x13FD, 1), (0xAB70, 0xABBF, 1)]

def chorasmianScript : Script where
  names := ["chorasmian", "chrs"]
  table := #[
    (0x10FB0, 0x10FCB, 1)]

def commonScript : Script where
  names := ["common", "zyyy"]
  table := #[
    (0x0, 0x40, 1), (0x5B, 0x60, 1), (0x7B, 0xA9, 1), (0xAB, 0xB9, 1), (0xBB, 0xBF, 1),
    (0xD7, 0xD7, 1), (0xF7, 0xF7, 1), (0x2B9, 0x2DF, 1), (0x2E5, 0x2E9, 1), (0x2EC, 0x2FF, 1),
    (0x374, 0x374, 1), (0x37E, 0x37E, 1), (0x385, 0x385, 1), (0x387, 0x387, 1),
    (0x605, 0x605, 1), (0x60C, 0x60C, 1), (0x61B, 0x61B, 1), (0x61F, 0x61F, 1),
    (0x640, 0x640, 1), (0x6DD, 0x6DD, 1), (0x8E2, 0x8E2, 1), (0x964, 0x965, 1),
    (0xE3F, 0xE3F, 1), (0xFD5, 0xFD8, 1), (0x10FB, 0x10FB, 1), (0x16EB, 0x16ED, 1),
    (0x1735, 0x1736, 1), (0x1802, 0x1803, 1), (0x1805, 0x1805, 1), (0x1CD3, 0x1CD3, 1),
    (0x1CE1, 0x1CE1, 1), (0x1CE9, 0x1CEC, 1), (0x1CEE, 0x1CF3, 1), (0x1CF5, 0x1CF7, 1),
    (0x1CFA, 0x1CFA, 1), (0x2000, 0x200B, 1), (0x200E, 0x2064, 1), (0x2066, 0x2070, 1),
    (0x2074, 0x207E, 1), (0x2080, 0x208E, 1), (0x20A0, 0x20C1, 1), (0x2100, 0x2125, 1),
    (0x2127, 0x2129, 1), (0x212C, 0x2131, 1), (0x2133, 0x214D, 1), (0x214F, 0x215F, 1),
    (0x2189, 0x218B, 1), (0x2190, 0x2429, 1), (0x2440, 0x244A, 1), (0x2460, 0x27FF, 1),
    (0x2900, 0x2B73, 1), (0x2B76, 0x2BFF, 1), (0x2E00, 0x2E5D, 1), (0x2FF0, 0x3004, 1),
    (0x3006, 0x3006, 1), (0x3008, 0x3020, 1), (0x3030, 0x3037, 1), (0x303C, 0x303F, 1),
    (0x309B, 0x309C, 1), (0x30A0, 0x30A0, 1), (0x30FB, 0x30FC, 1), (0x3190, 0x319F, 1),
    (0x31C0, 0x31E5, 1), (0x31EF, 0x31EF, 1), (0x3220, 0x325F, 1), (0x327F, 0x32CF, 1),
    (0x32FF, 0x32FF, 1), (0x3358, 0x33FF, 1), (0x4DC0, 0x4DFF, 1), (0xA700, 0xA721, 1),
    (0xA788, 0xA78A, 1), (0xA830, 0xA839, 1), (0xA92E, 0xA92E, 1), (0xA9CF, 0xA9CF, 1),
    (0xAB5B, 0xAB5B, 1), (0xAB6A, 0xAB6B, 1), (0xFD3E, 0xFD3F, 1), (0xFE10, 0xFE19, 1),
    (0xFE30, 0xFE52, 1), (0xFE54, 0xFE66, 1), (0xFE68, 0xFE6B, 1), (0xFEFF, 0xFEFF, 1),
    (0xFF01, 0xFF20, 1), (0xFF3B, 0xFF40, 1), (0xFF5B, 0xFF65, 1), (0xFF70, 0xFF70, 1),
    (0xFF9E, 0xFF9F, 1), (0xFFE0, 0xFFE6, 1), (0xFFE8, 0xFFEE, 1), (0xFFF9, 0xFFFD, 1),
    (0x10100, 0x10102, 1), (0x10107, 0x10133, 1), (0x10137, 0x1013F, 1), (0x10190, 0x1019C, 1),
    (0x101D0, 0x101FC, 1), (0x102E1, 0x102FB, 1), (0x1BCA0, 0x1BCA3, 1), (0x1CC00, 0x1CCFC, 1),
    (0x1CD00, 0x1CEB3, 1), (0x1CEBA, 0x1CED0, 1), (0x1CEE0, 0x1CEF0, 1), (0x1CF50, 0x1CFC3, 1),
    (0x1D000, 0x1D0F5, 1), (0x1D100, 0x1D126, 1), (0x1D129, 0x1D166, 1), (0x1D16A, 0x1D17A, 1),
    (0x1D183, 0x1D184, 1), (0x1D18C, 0x1D1A9, 1), (0x1D1AE, 0x1D1EA, 1), (0x1D2C0, 0x1D2D3, 1),
    (0x1D2E0, 0x1D2F3, 1), (0x1D300, 0x1D356, 1), (0x1D360, 0x1D378, 1), (0x1D400, 0x1D454, 1),
    (0x1D456, 0x1D49C, 1), (0x1D49E, 0x1D49F, 1), (0x1D4A2, 0x1D4A2, 1), (0x1D4A5, 0x1D4A6, 1),
    (0x1D4A9, 0x1D4AC, 1), (0x1D4AE, 0x1D4B9, 1), (0x1D4BB, 0x1D4BB, 1), (0x1D4BD, 0x1D4C3, 1),
    (0x1D4C5, 0x1D505, 1), (0x1D507, 0x1D50A, 1), (0x1D50D, 0x1D514, 1), (0x1D516, 0x1D51C, 1),
    (0x1D51E, 0x1D539, 1), (0x1D53B, 0x1D53E, 1), (0x1D540, 0x1D544, 1), (0x1D546, 0x1D546, 1),
    (0x1D54A, 0x1D550, 1), (0x1D552, 0x1D6A5, 1), (0x1D6A8, 0x1D7CB, 1), (0x1D7CE, 0x1D7FF, 1),
    (0x1EC71, 0x1ECB4, 1), (0x1ED01, 0x1ED3D, 1), (0x1F000, 0x1F02B, 1), (0x1F030, 0x1F093, 1),
    (0x1F0A0, 0x1F0AE, 1), (0x1F0B1, 0x1F0BF, 1), (0x1F0C1, 0x1F0CF, 1), (0x1F0D1, 0x1F0F5, 1),
    (0x1F100, 0x1F1AD, 1), (0x1F1E6, 0x1F1FF, 1), (0x1F201, 0x1F202, 1), (0x1F210, 0x1F23B, 1),
    (0x1F240, 0x1F248, 1), (0x1F250, 0x1F251, 1), (0x1F260, 0x1F265, 1), (0x1F300, 0x1F6D8, 1),
    (0x1F6DC, 0x1F6EC, 1), (0x1F6F0, 0x1F6FC, 1), (0x1F700, 0x1F7D9, 1), (0x1F7E0, 0x1F7EB, 1),
    (0x1F7F0, 0x1F7F0, 1), (0x1F800, 0x1F80B, 1), (0x1F810, 0x1F847, 1), (0x1F850, 0x1F859, 1),
    (0x1F860, 0x1F887, 1), (0x1F890, 0x1F8AD, 1), (0x1F8B0, 0x1F8BB, 1), (0x1F8C0, 0x1F8C1, 1),
    (0x1F8D0, 0x1F8D8, 1), (0x1F900, 0x1FA57, 1), (0x1FA60, 0x1FA6D, 1), (0x1FA70, 0x1FA7C, 1),
    (0x1FA80, 0x1FA8A, 1), (0x1FA8E, 0x1FAC6, 1), (0x1FAC8, 0x1FAC8, 1), (0x1FACD, 0x1FADC, 1),
    (0x1FADF, 0x1FAEA, 1), (0x1FAEF, 0x1FAF8, 1), (0x1FB00, 0x1FB92, 1), (0x1FB94, 0x1FBFA, 1),
    (0xE0001, 0xE0001, 1), (0xE0020, 0xE007F, 1)]

def copticScript : Script where
  names := ["coptic", "copt", "qaac"]
  table := #[
    (0x3E2, 0x3EF, 1), (0x2C80, 0x2CF3, 1), (0x2CF9, 0x2CFF, 1)]

def cuneiformScript : Script where
  names := ["cuneiform", "xsux"]
  table := #[
    (0x12000, 0x12399, 1), (0x12400, 0x1246E, 1), (0x12470, 0x12474, 1), (0x12480, 0x12543, 1)]

def cypriotScript : Script where
  names := ["cypriot", "cprt"]
  table := #[
    (0x10800, 0x10805, 1), (0x10808, 0x10808, 1), (0x1080A, 0x10835, 1), (0x10837, 0x10838, 1),
    (0x1083C, 0x1083C, 1), (0x1083F, 0x1083F, 1)]

def cyproMinoanScript : Script where
  names := ["cyprominoan", "cpmn"]
  table := #[
    (0x12F90, 0x12FF2, 1)]

def cyrillicScript : Script where
  names := ["cyrillic", "cyrl"]
  table := #[
    (0x400, 0x484, 1), (0x487, 0x52F, 1), (0x1C80, 0x1C8A, 1), (0x1D2B, 0x1D2B, 1),
    (0x1D78, 0x1D78, 1), (0x2DE0, 0x2DFF, 1), (0xA640, 0xA69F, 1), (0xFE2E, 0xFE2F, 1),
    (0x1E030, 0x1E06D, 1), (0x1E08F, 0x1E08F, 1)]

def deseretScript : Script where
  names := ["deseret", "dsrt"]
  table := #[
    (0x10400, 0x1044F, 1)]

def devanagariScript : Script where
  names := ["devanagari", "deva"]
  table := #[
    (0x900, 0x950, 1), (0x955, 0x963, 1), (0x966, 0x97F, 1), (0xA8E0, 0xA8FF, 1),
    (0x11B00, 0x11B09, 1)]

def divesAkuruScript : Script where
  names := ["divesakuru", "diak"]
  table := #[
    (0x11900, 0x11906, 1), (0x11909, 0x11909, 1), (0x1190C, 0x11913, 1), (0x11915, 0x11916, 1),
    (0x11918, 0x11935, 1), (0x11937, 0x11938, 1), (0x1193B, 0x11946, 1), (0x11950, 0x11959, 1)]

def dograScript : Script where
  names := ["dogra", "dogr"]
  table := #[
    (0x11800, 0x1183B, 1)]

def duployanScript : Script where
  names := ["duployan", "dupl"]
  table := #[
    (0x1BC00, 0x1BC6A, 1), (0x1BC70, 0x1BC7C, 1), (0x1BC80, 0x1BC88, 1), (0x1BC90, 0x1BC99, 1),
    (0x1BC9C, 0x1BC9F, 1)]

def egyptianHieroglyphsScript : Script where
  names := ["egyptianhieroglyphs", "egyp"]
  table := #[
    (0x13000, 0x13455, 1), (0x13460, 0x143FA, 1)]

def elbasanScript : Script where
  names := ["elbasan", "elba"]
  table := #[
    (0x10500, 0x10527, 1)]

def elymaicScript : Script where
  names := ["elymaic", "elym"]
  table := #[
    (0x10FE0, 0x10FF6, 1)]

def ethiopicScript : Script where
  names := ["ethiopic", "ethi"]
  table := #[
    (0x1200, 0x1248, 1), (0x124A, 0x124D, 1), (0x1250, 0x1256, 1), (0x1258, 0x1258, 1),
    (0x125A, 0x125D, 1), (0x1260, 0x1288, 1), (0x128A, 0x128D, 1), (0x1290, 0x12B0, 1),
    (0x12B2, 0x12B5, 1), (0x12B8, 0x12BE, 1), (0x12C0, 0x12C0, 1), (0x12C2, 0x12C5, 1),
    (0x12C8, 0x12D6, 1), (0x12D8, 0x1310, 1), (0x1312, 0x1315, 1), (0x1318, 0x135A, 1),
    (0x135D, 0x137C, 1), (0x1380, 0x1399, 1), (0x2D80, 0x2D96, 1), (0x2DA0, 0x2DA6, 1),
    (0x2DA8, 0x2DAE, 1), (0x2DB0, 0x2DB6, 1), (0x2DB8, 0x2DBE, 1), (0x2DC0, 0x2DC6, 1),
    (0x2DC8, 0x2DCE, 1), (0x2DD0, 0x2DD6, 1), (0x2DD8, 0x2DDE, 1), (0xAB01, 0xAB06, 1),
    (0xAB09, 0xAB0E, 1), (0xAB11, 0xAB16, 1), (0xAB20, 0xAB26, 1), (0xAB28, 0xAB2E, 1),
    (0x1E7E0, 0x1E7E6, 1), (0x1E7E8, 0x1E7EB, 1), (0x1E7ED, 0x1E7EE, 1), (0x1E7F0, 0x1E7FE, 1)]

def garayScript : Script where
  names := ["garay", "gara"]
  table := #[
    (0x10D40, 0x10D65, 1), (0x10D69, 0x10D85, 1), (0x10D8E, 0x10D8F, 1)]

def georgianScript : Script where
  names := ["georgian", "geor"]
  table := #[
    (0x10A0, 0x10C5, 1), (0x10C7, 0x10C7, 1), (0x10CD, 0x10CD, 1), (0x10D0, 0x10FA, 1),
    (0x10FC, 0x10FF, 1), (0x1C90, 0x1CBA, 1), (0x1CBD, 0x1CBF, 1), (0x2D00, 0x2D25, 1),
    (0x2D27, 0x2D27, 1), (0x2D2D, 0x2D2D, 1)]

def glagoliticScript : Script where
  names := ["glagolitic", "glag"]
  table := #[
    (0x2C00, 0x2C5F, 1), (0x1E000, 0x1E006, 1), (0x1E008, 0x1E018, 1), (0x1E01B, 0x1E021, 1),
    (0x1E023, 0x1E024, 1), (0x1E026, 0x1E02A, 1)]

def gothicScript : Script where
  names := ["gothic", "goth"]
  table := #[
    (0x10330, 0x1034A, 1)]

def granthaScript : Script where
  names := ["grantha", "gran"]
  table := #[
    (0x11300, 0x11303, 1), (0x11305, 0x1130C, 1), (0x1130F, 0x11310, 1), (0x11313, 0x11328, 1),
    (0x1132A, 0x11330, 1), (0x11332, 0x11333, 1), (0x11335, 0x11339, 1), (0x1133C, 0x11344, 1),
    (0x11347, 0x11348, 1), (0x1134B, 0x1134D, 1), (0x11350, 0x11350, 1), (0x11357, 0x11357, 1),
    (0x1135D, 0x11363, 1), (0x11366, 0x1136C, 1), (0x11370, 0x11374, 1)]

def greekScript : Script where
  names := ["greek", "grek"]
  table := #[
    (0x370, 0x373, 1), (0x375, 0x377, 1), (0x37A, 0x37D, 1), (0x37F, 0x37F, 1),
    (0x384, 0x384, 1), (0x386, 0x386, 1), (0x388, 0x38A, 1), (0x38C, 0x38C, 1),
    (0x38E, 0x3A1, 1), (0x3A3, 0x3E1, 1), (0x3F0, 0x3FF, 1), (0x1D26, 0x1D2A, 1),
    (0x1D5D, 0x1D61, 1), (0x1D66, 0x1D6A, 1), (0x1DBF, 0x1DBF, 1), (0x1F00, 0x1F15, 1),
    (0x1F18, 0x1F1D, 1), (0x1F20, 0x1F45, 1), (0x1F48, 0x1F4D, 1), (0x1F50, 0x1F57, 1),
    (0x1F59, 0x1F59, 1), (0x1F5B, 0x1F5B, 1), (0x1F5D, 0x1F5D, 1), (0x1F5F, 0x1F7D, 1),
    (0x1F80, 0x1FB4, 1), (0x1FB6, 0x1FC4, 1), (0x1FC6, 0x1FD3, 1), (0x1FD6, 0x1FDB, 1),
    (0x1FDD, 0x1FEF, 1), (0x1FF2, 0x1FF4, 1), (0x1FF6, 0x1FFE, 1), (0x2126, 0x2126, 1),
    (0xAB65, 0xAB65, 1), (0x10140, 0x1018E, 1), (0x101A0, 0x101A0, 1), (0x1D200, 0x1D245, 1)]

def gujaratiScript : Script where
  names := ["gujarati", "gujr"]
  table := #[
    (0xA81, 0xA83, 1), (0xA85, 0xA8D, 1), (0xA8F, 0xA91, 1), (0xA93, 0xAA8, 1),
    (0xAAA, 0xAB0, 1), (0xAB2, 0xAB3, 1), (0xAB5, 0xAB9, 1), (0xABC, 0xAC5, 1),
    (0xAC7, 0xAC9, 1), (0xACB, 0xACD, 1), (0xAD0, 0xAD0, 1), (0xAE0, 0xAE3, 1),
    (0xAE6, 0xAF1, 1), (0xAF9, 0xAFF, 1)]

def gunjalaGondiScript : Script where
  names := ["gunjalagondi", "gong"]
  table := #[
    (0x11D60, 0x11D65, 1), (0x11D67, 0x11D68, 1), (0x11D6A, 0x11D8E, 1), (0x11D90, 0x11D91, 1),
    (0x11D93, 0x11D98, 1), (0x11DA0, 0x11DA9, 1)]

def gurmukhiScript : Script where
  names := ["gurmukhi", "guru"]
  table := #[
    (0xA01, 0xA03, 1), (0xA05, 0xA0A, 1), (0xA0F, 0xA10, 1), (0xA13, 0xA28, 1),
    (0xA2A, 0xA30, 1), (0xA32, 0xA33, 1), (0xA35, 0xA36, 1), (0xA38, 0xA39, 1),
    (0xA3C, 0xA3C, 1), (0xA3E, 0xA42, 1), (0xA47, 0xA48, 1), (0xA4B, 0xA4D, 1),
    (0xA51, 0xA51, 1), (0xA59, 0xA5C, 1), (0xA5E, 0xA5E, 1), (0xA66, 0xA76, 1)]

def gurungKhemaScript : Script where
  names := ["gurungkhema", "gukh"]
  table := #[
    (0x16100, 0x16139, 1)]

def hanScript : Script where
  names := ["han", "hani"]
  table := #[
    (0x2E80, 0x2E99, 1), (0x2E9B, 0x2EF3, 1), (0x2F00, 0x2FD5, 1), (0x3005, 0x3005, 1),
    (0x3007, 0x3007, 1), (0x3021, 0x3029, 1), (0x3038, 0x303B, 1), (0x3400, 0x4DBF, 1),
    (0x4E00, 0x9FFF, 1), (0xF900, 0xFA6D, 1), (0xFA70, 0xFAD9, 1), (0x16FE2, 0x16FE3, 1),
    (0x16FF0, 0x16FF6, 1), (0x20000, 0x2A6DF, 1), (0x2A700, 0x2B81D, 1), (0x2B820, 0x2CEAD, 1),
    (0x2CEB0, 0x2EBE0, 1), (0x2EBF0, 0x2EE5D, 1), (0x2F800, 0x2FA1D, 1), (0x30000, 0x3134A, 1),
    (0x31350, 0x33479, 1)]

def hangulScript : Script where
  names := ["hangul", "hang"]
  table := #[
    (0x1100, 0x11FF, 1), (0x302E, 0x302F, 1), (0x3131, 0x318E, 1), (0x3200, 0x321E, 1),
    (0x3260, 0x327E, 1), (0xA960, 0xA97C, 1), (0xAC00, 0xD7A3, 1), (0xD7B0, 0xD7C6, 1),
    (0xD7CB, 0xD7FB, 1), (0xFFA0, 0xFFBE, 1), (0xFFC2, 0xFFC7, 1), (0xFFCA, 0xFFCF, 1),
    (0xFFD2, 0xFFD7, 1), (0xFFDA, 0xFFDC, 1)]

def hanifiRohingyaScript : Script where
  names := ["hanifirohingya", "rohg"]
  table := #[
    (0x10D00, 0x10D27, 1), (0x10D30, 0x10D39, 1)]

def hanunooScript : Script where
  names := ["hanunoo", "hano"]
  table := #[
    (0x1720, 0x1734, 1)]

def hatranScript : Script where
  names := ["hatran", "hatr"]
  table := #[
    (0x108E0, 0x108F2, 1), (0x108F4, 0x108F5, 1), (0x108FB, 0x108FF, 1)]

def hebrewScript : Script where
  names := ["hebrew", "hebr"]
  table := #[
    (0x591, 0x5C7, 1), (0x5D0, 0x5EA, 1), (0x5EF, 0x5F4, 1), (0xFB1D, 0xFB36, 1),
    (0xFB38, 0xFB3C, 1), (0xFB3E, 0xFB3E, 1), (0xFB40, 0xFB41, 1), (0xFB43, 0xFB44, 1),
    (0xFB46, 0xFB4F, 1)]

def hiraganaScript : Script where
  names := ["hiragana", "hira"]
  table := #[
    (0x3041, 0x3096, 1), (0x309D, 0x309F, 1), (0x1B001, 0x1B11F, 1), (0x1B132, 0x1B132, 1),
    (0x1B150, 0x1B152, 1), (0x1F200, 0x1F200, 1)]

def imperialAramaicScript : Script where
  names := ["imperialaramaic", "armi"]
  table := #[
    (0x10840, 0x10855, 1), (0x10857, 0x1085F, 1)]

def inheritedScript : Script where
  names := ["inherited", "qaai", "zinh"]
  table := #[
    (0x300, 0x36F, 1), (0x485, 0x486, 1), (0x64B, 0x655, 1), (0x670, 0x670, 1),
    (0x951, 0x954, 1), (0x1AB0, 0x1ADD, 1), (0x1AE0, 0x1AEB, 1), (0x1CD0, 0x1CD2, 1),
    (0x1CD4, 0x1CE0, 1), (0x1CE2, 0x1CE8, 1), (0x1CED, 0x1CED, 1), (0x1CF4, 0x1CF4, 1),
    (0x1CF8, 0x1CF9, 1), (0x1DC0, 0x1DFF, 1), (0x200C, 0x200D, 1), (0x20D0, 0x20F0, 1),
    (0x302A, 0x302D, 1), (0x3099, 0x309A, 1), (0xFE00, 0xFE0F, 1), (0xFE20, 0xFE2D, 1),
    (0x101FD, 0x101FD, 1), (0x102E0, 0x102E0, 1), (0x1133B, 0x1133B, 1), (0x1CF00, 0x1CF2D, 1),
    (0x1CF30, 0x1CF46, 1), (0x1D167, 0x1D169, 1), (0x1D17B, 0x1D182, 1), (0x1D185, 0x1D18B, 1),
    (0x1D1AA, 0x1D1AD, 1), (0xE0100, 0xE01EF, 1)]

def inscriptionalPahlaviScript : Script where
  names := ["inscriptionalpahlavi", "phli"]
  table := #[
    (0x10B60, 0x10B72, 1), (0x10B78, 0x10B7F, 1)]

def inscriptionalParthianScript : Script where
  names := ["inscriptionalparthian", "prti"]
  table := #[
    (0x10B40, 0x10B55, 1), (0x10B58, 0x10B5F, 1)]

def javaneseScript : Script where
  names := ["javanese", "java"]
  table := #[
    (0xA980, 0xA9CD, 1), (0xA9D0, 0xA9D9, 1), (0xA9DE, 0xA9DF, 1)]

def kaithiScript : Script where
  names := ["kaithi", "kthi"]
  table := #[
    (0x11080, 0x110C2, 1), (0x110CD, 0x110CD, 1)]

def kannadaScript : Script where
  names := ["kannada", "knda"]
  table := #[
    (0xC80, 0xC8C, 1), (0xC8E, 0xC90, 1), (0xC92, 0xCA8, 1), (0xCAA, 0xCB3, 1),
    (0xCB5, 0xCB9, 1), (0xCBC, 0xCC4, 1), (0xCC6, 0xCC8, 1), (0xCCA, 0xCCD, 1),
    (0xCD5, 0xCD6, 1), (0xCDC, 0xCDE, 1), (0xCE0, 0xCE3, 1), (0xCE6, 0xCEF, 1), (0xCF1, 0xCF3, 1)]

def katakanaScript : Script where
  names := ["katakana", "kana"]
  table := #[
    (0x30A1, 0x30FA, 1), (0x30FD, 0x30FF, 1), (0x31F0, 0x31FF, 1), (0x32D0, 0x32FE, 1),
    (0x3300, 0x3357, 1), (0xFF66, 0xFF6F, 1), (0xFF71, 0xFF9D, 1), (0x1AFF0, 0x1AFF3, 1),
    (0x1AFF5, 0x1AFFB, 1), (0x1AFFD, 0x1AFFE, 1), (0x1B000, 0x1B000, 1), (0x1B120, 0x1B122, 1),
    (0x1B155, 0x1B155, 1), (0x1B164, 0x1B167, 1)]

def kawiScript : Script where
  names := ["kawi"]
  table := #[
    (0x11F00, 0x11F10, 1), (0x11F12, 0x11F3A, 1), (0x11F3E, 0x11F5A, 1)]

def kayahLiScript : Script where
  names := ["kayahli", "kali"]
  table := #[
    (0xA900, 0xA92D, 1), (0xA92F, 0xA92F, 1)]

def kharoshthiScript : Script where
  names := ["kharoshthi", "khar"]
  table := #[
    (0x10A00, 0x10A03, 1), (0x10A05, 0x10A06, 1), (0x10A0C, 0x10A13, 1), (0x10A15, 0x10A17, 1),
    (0x10A19, 0x10A35, 1), (0x10A38, 0x10A3A, 1), (0x10A3F, 0x10A48, 1), (0x10A50, 0x10A58, 1)]

def khitanSmallScriptScript : Script where
  names := ["khitansmallscript", "kits"]
  table := #[
    (0x16FE4, 0x16FE4, 1), (0x18B00, 0x18CD5, 1), (0x18CFF, 0x18CFF, 1)]

def khmerScript : Script where
  names := ["khmer", "khmr"]
  table := #[
    (0x1780, 0x17DD, 1), (0x17E0, 0x17E9, 1), (0x17F0, 0x17F9, 1), (0x19E0, 0x19FF, 1)]

def khojkiScript : Script where
  names := ["khojki", "khoj"]
  table := #[
    (0x11200, 0x11211, 1), (0x11213, 0x11241, 1)]

def khudawadiScript : Script where
  names := ["khudawadi", "sind"]
  table := #[
    (0x112B0, 0x112EA, 1), (0x112F0, 0x112F9, 1)]

def kiratRaiScript : Script where
  names := ["kiratrai", "krai"]
  table := #[
    (0x16D40, 0x16D79, 1)]

def laoScript : Script where
  names := ["lao", "laoo"]
  table := #[
    (0xE81, 0xE82, 1), (0xE84, 0xE84, 1), (0xE86, 0xE8A, 1), (0xE8C, 0xEA3, 1),
    (0xEA5, 0xEA5, 1), (0xEA7, 0xEBD, 1), (0xEC0, 0xEC4, 1), (0xEC6, 0xEC6, 1),
    (0xEC8, 0xECE, 1), (0xED0, 0xED9, 1), (0xEDC, 0xEDF, 1)]

def latinScript : Script where
  names := ["latin", "latn"]
  table := #[
    (0x41, 0x5A, 1), (0x61, 0x7A, 1), (0xAA, 0xAA, 1), (0xBA, 0xBA, 1), (0xC0, 0xD6, 1),
    (0xD8, 0xF6, 1), (0xF8, 0x2B8, 1), (0x2E0, 0x2E4, 1), (0x1D00, 0x1D25, 1),
    (0x1D2C, 0x1D5C, 1), (0x1D62, 0x1D65, 1), (0x1D6B, 0x1D77, 1), (0x1D79, 0x1DBE, 1),
    (0x1E00, 0x1EFF, 1), (0x2071, 0x2071, 1), (0x207F, 0x207F, 1), (0x2090, 0x209C, 1),
    (0x212A, 0x212B, 1), (0x2132, 0x2132, 1), (0x214E, 0x214E, 1), (0x2160, 0x2188, 1),
    (0x2C60, 0x2C7F, 1), (0xA722, 0xA787, 1), (0xA78B, 0xA7DC, 1), (0xA7F1, 0xA7FF, 1),
    (0xAB30, 0xAB5A, 1), (0xAB5C, 0xAB64, 1), (0xAB66, 0xAB69, 1), (0xFB00, 0xFB06, 1),
    (0xFF21, 0xFF3A, 1), (0xFF41, 0xFF5A, 1), (0x10780, 0x10785, 1), (0x10787, 0x107B0, 1),
    (0x107B2, 0x107BA, 1), (0x1DF00, 0x1DF1E, 1), (0x1DF25, 0x1DF2A, 1)]

def lepchaScript : Script where
  names := ["lepcha", "lepc"]
  table := #[
    (0x1C00, 0x1C37, 1), (0x1C3B, 0x1C49, 1), (0x1C4D, 0x1C4F, 1)]

def limbuScript : Script where
  names := ["limbu", "limb"]
  table := #[
    (0x1900, 0x191E, 1), (0x1920, 0x192B, 1), (0x1930, 0x193B, 1), (0x1940, 0x1940, 1),
    (0x1944, 0x194F, 1)]

def linearAScript : Script where
  names := ["lineara", "lina"]
  table := #[
    (0x10600, 0x10736, 1), (0x10740, 0x10755, 1), (0x10760, 0x10767, 1)]

def linearBScript : Script where
  names := ["linearb", "linb"]
  table := #[
    (0x10000, 0x1000B, 1), (0x1000D, 0x10026, 1), (0x10028, 0x1003A, 1), (0x1003C, 0x1003D, 1),
    (0x1003F, 0x1004D, 1), (0x10050, 0x1005D, 1), (0x10080, 0x100FA, 1)]

def lisuScript : Script where
  names := ["lisu"]
  table := #[
    (0xA4D0, 0xA4FF, 1), (0x11FB0, 0x11FB0, 1)]

def lycianScript : Script where
  names := ["lycian", "lyci"]
  table := #[
    (0x10280, 0x1029C, 1)]

def lydianScript : Script where
  names := ["lydian", "lydi"]
  table := #[
    (0x10920, 0x10939, 1), (0x1093F, 0x1093F, 1)]

def mahajaniScript : Script where
  names := ["mahajani", "mahj"]
  table := #[
    (0x11150, 0x11176, 1)]

def makasarScript : Script where
  names := ["makasar", "maka"]
  table := #[
    (0x11EE0, 0x11EF8, 1)]

def malayalamScript : Script where
  names := ["malayalam", "mlym"]
  table := #[
    (0xD00, 0xD0C, 1), (0xD0E, 0xD10, 1), (0xD12, 0xD44, 1), (0xD46, 0xD48, 1),
    (0xD4A, 0xD4F, 1), (0xD54, 0xD63, 1), (0xD66, 0xD7F, 1)]

def mandaicScript : Script where
  names := ["mandaic", "mand"]
  table := #[
    (0x840, 0x85B, 1), (0x85E, 0x85E, 1)]

def manichaeanScript : Script where
  names := ["manichaean", "mani"]
  table := #[
    (0x10AC0, 0x10AE6, 1), (0x10AEB, 0x10AF6, 1)]

def marchenScript : Script where
  names := ["marchen", "marc"]
  table := #[
    (0x11C70, 0x11C8F, 1), (0x11C92, 0x11CA7, 1), (0x11CA9, 0x11CB6, 1)]

def masaramGondiScript : Script where
  names := ["masaramgondi", "gonm"]
  table := #[
    (0x11D00, 0x11D06, 1), (0x11D08, 0x11D09, 1), (0x11D0B, 0x11D36, 1), (0x11D3A, 0x11D3A, 1),
    (0x11D3C, 0x11D3D, 1), (0x11D3F, 0x11D47, 1), (0x11D50, 0x11D59, 1)]

def medefaidrinScript : Script where
  names := ["medefaidrin", "medf"]
  table := #[
    (0x16E40, 0x16E9A, 1)]

def meeteiMayekScript : Script where
  names := ["meeteimayek", "mtei"]
  table := #[
    (0xAAE0, 0xAAF6, 1), (0xABC0, 0xABED, 1), (0xABF0, 0xABF9, 1)]

def mendeKikakuiScript : Script where
  names := ["mendekikakui", "mend"]
  table := #[
    (0x1E800, 0x1E8C4, 1), (0x1E8C7, 0x1E8D6, 1)]

def meroiticCursiveScript : Script where
  names := ["meroiticcursive", "merc"]
  table := #[
    (0x109A0, 0x109B7, 1), (0x109BC, 0x109CF, 1), (0x109D2, 0x109FF, 1)]

def meroiticHieroglyphsScript : Script where
  names := ["meroitichieroglyphs", "mero"]
  table := #[
    (0x10980, 0x1099F, 1)]

def miaoScript : Script where
  names := ["miao", "plrd"]
  table := #[
    (0x16F00, 0x16F4A, 1), (0x16F4F, 0x16F87, 1), (0x16F8F, 0x16F9F, 1)]

def modiScript : Script where
  names := ["modi"]
  table := #[
    (0x11600, 0x11644, 1), (0x11650, 0x11659, 1)]

def mongolianScript : Script where
  names := ["mongolian", "mong"]
  table := #[
    (0x1800, 0x1801, 1), (0x1804, 0x1804, 1), (0x1806, 0x1819, 1), (0x1820, 0x1878, 1),
    (0x1880, 0x18AA, 1), (0x11660, 0x1166C, 1)]

def mroScript : Script where
  names := ["mro", "mroo"]
  table := #[
    (0x16A40, 0x16A5E, 1), (0x16A60, 0x16A69, 1), (0x16A6E, 0x16A6F, 1)]

def multaniScript : Script where
  names := ["multani", "mult"]
  table := #[
    (0x11280, 0x11286, 1), (0x11288, 0x11288, 1), (0x1128A, 0x1128D, 1), (0x1128F, 0x1129D, 1),
    (0x1129F, 0x112A9, 1)]

def myanmarScript : Script where
  names := ["myanmar", "mymr"]
  table := #[
    (0x1000, 0x109F, 1), (0xA9E0, 0xA9FE, 1), (0xAA60, 0xAA7F, 1), (0x116D0, 0x116E3, 1)]

def nabataeanScript : Script where
  names := ["nabataean", "nbat"]
  table := #[
    (0x10880, 0x1089E, 1), (0x108A7, 0x108AF, 1)]

def nagMundariScript : Script where
  names := ["nagmundari", "nagm"]
  table := #[
    (0x1E4D0, 0x1E4F9, 1)]

def nandinagariScript : Script where
  names := ["nandinagari", "nand"]
  table := #[
    (0x119A0, 0x119A7, 1), (0x119AA, 0x119D7, 1), (0x119DA, 0x119E4, 1)]

def newTaiLueScript : Script where
  names := ["newtailue", "talu"]
  table := #[
    (0x1980, 0x19AB, 1), (0x19B0, 0x19C9, 1), (0x19D0, 0x19DA, 1), (0x19DE, 0x19DF, 1)]

def newaScript : Script where
  names := ["newa"]
  table := #[
    (0x11400, 0x1145B, 1), (0x1145D, 0x11461, 1)]

def nkoScript : Script where
  names := ["nko", "nkoo"]
  table := #[
    (0x7C0, 0x7FA, 1), (0x7FD, 0x7FF, 1)]

def nushuScript : Script where
  names := ["nushu", "nshu"]
  table := #[
    (0x16FE1, 0x16FE1, 1), (0x1B170, 0x1B2FB, 1)]

def nyiakengPuachueHmongScript : Script where
  names := ["nyiakengpuachuehmong", "hmnp"]
  table := #[
    (0x1E100, 0x1E12C, 1), (0x1E130, 0x1E13D, 1), (0x1E140, 0x1E149, 1), (0x1E14E, 0x1E14F, 1)]

def oghamScript : Script where
  names := ["ogham", "ogam"]
  table := #[
    (0x1680, 0x169C, 1)]

def olChikiScript : Script where
  names := ["olchiki", "olck"]
  table := #[
    (0x1C50, 0x1C7F, 1)]

def olOnalScript : Script where
  names := ["olonal", "onao"]
  table := #[
    (0x1E5D0, 0x1E5FA, 1), (0x1E5FF, 0x1E5FF, 1)]

def oldHungarianScript : Script where
  names := ["oldhungarian", "hung"]
  table := #[
    (0x10C80, 0x10CB2, 1), (0x10CC0, 0x10CF2, 1), (0x10CFA, 0x10CFF, 1)]

def oldItalicScript : Script where
  names := ["olditalic", "ital"]
  table := #[
    (0x10300, 0x10323, 1), (0x1032D, 0x1032F, 1)]

def oldNorthArabianScript : Script where
  names := ["oldnortharabian", "narb"]
  table := #[
    (0x10A80, 0x10A9F, 1)]

def oldPermicScript : Script where
  names := ["oldpermic", "perm"]
  table := #[
    (0x10350, 0x1037A, 1)]

def oldPersianScript : Script where
  names := ["oldpersian", "xpeo"]
  table := #[
    (0x103A0, 0x103C3, 1), (0x103C8, 0x103D5, 1)]

def oldSogdianScript : Script where
  names := ["oldsogdian", "sogo"]
  table := #[
    (0x10F00, 0x10F27, 1)]

def oldSouthArabianScript : Script where
  names := ["oldsoutharabian", "sarb"]
  table := #[
    (0x10A60, 0x10A7F, 1)]

def oldTurkicScript : Script where
  names := ["oldturkic", "orkh"]
  table := #[
    (0x10C00, 0x10C48, 1)]

def oldUyghurScript : Script where
  names := ["olduyghur", "ougr"]
  table := #[
    (0x10F70, 0x10F89, 1)]

def oriyaScript : Script where
  names := ["oriya", "orya"]
  table := #[
    (0xB01, 0xB03, 1), (0xB05, 0xB0C, 1), (0xB0F, 0xB10, 1), (0xB13, 0xB28, 1),
    (0xB2A, 0xB30, 1), (0xB32, 0xB33, 1), (0xB35, 0xB39, 1), (0xB3C, 0xB44, 1),
    (0xB47, 0xB48, 1), (0xB4B, 0xB4D, 1), (0xB55, 0xB57, 1), (0xB5C, 0xB5D, 1),
    (0xB5F, 0xB63, 1), (0xB66, 0xB77, 1)]

def osageScript : Script where
  names := ["osage", "osge"]
  table := #[
    (0x104B0, 0x104D3, 1), (0x104D8, 0x104FB, 1)]

def osmanyaScript : Script where
  names := ["osmanya", "osma"]
  table := #[
    (0x10480, 0x1049D, 1), (0x104A0, 0x104A9, 1)]

def pahawhHmongScript : Script where
  names := ["pahawhhmong", "hmng"]
  table := #[
    (0x16B00, 0x16B45, 1), (0x16B50, 0x16B59, 1), (0x16B5B, 0x16B61, 1), (0x16B63, 0x16B77, 1),
    (0x16B7D, 0x16B8F, 1)]

def palmyreneScript : Script where
  names := ["palmyrene", "palm"]
  table := #[
    (0x10860, 0x1087F, 1)]

def pauCinHauScript : Script where
  names := ["paucinhau", "pauc"]
  table := #[
    (0x11AC0, 0x11AF8, 1)]

def phagsPaScript : Script where
  names := ["phagspa", "phag"]
  table := #[
    (0xA840, 0xA877, 1)]

def phoenicianScript : Script where
  names := ["phoenician", "phnx"]
  table := #[
    (0x10900, 0x1091B, 1), (0x1091F, 0x1091F, 1)]

def psalterPahlaviScript : Script where
  names := ["psalterpahlavi", "phlp"]
  table := #[
    (0x10B80, 0x10B91, 1), (0x10B99, 0x10B9C, 1), (0x10BA9, 0x10BAF, 1)]

def rejangScript : Script where
  names := ["rejang", "rjng"]
  table := #[
    (0xA930, 0xA953, 1), (0xA95F, 0xA95F, 1)]

def runicScript : Script where
  names := ["runic", "runr"]
  table := #[
    (0x16A0, 0x16EA, 1), (0x16EE, 0x16F8, 1)]

def samaritanScript : Script where
  names := ["samaritan", "samr"]
  table := #[
    (0x800, 0x82D, 1), (0x830, 0x83E, 1)]

def saurashtraScript : Script where
  names := ["saurashtra", "saur"]
  table := #[
    (0xA880, 0xA8C5, 1), (0xA8CE, 0xA8D9, 1)]

def sharadaScript : Script where
  names := ["sharada", "shrd"]
  table := #[
    (0x11180, 0x111DF, 1), (0x11B60, 0x11B67, 1)]

def shavianScript : Script where
  names := ["shavian", "shaw"]
  table := #[
    (0x10450, 0x1047F, 1)]

def siddhamScript : Script where
  names := ["siddham", "sidd"]
  table := #[
    (0x11580, 0x115B5, 1), (0x115B8, 0x115DD, 1)]

def sideticScript : Script where
  names := ["sidetic", "sidt"]
  table := #[
    (0x10940, 0x10959, 1)]

def signWritingScript : Script where
  names := ["signwriting", "sgnw"]
  table := #[
    (0x1D800, 0x1DA8B, 1), (0x1DA9B, 0x1DA9F, 1), (0x1DAA1, 0x1DAAF, 1)]

def sinhalaScript : Script where
  names := ["sinhala", "sinh"]
  table := #[
    (0xD81, 0xD83, 1), (0xD85, 0xD96, 1), (0xD9A, 0xDB1, 1), (0xDB3, 0xDBB, 1),
    (0xDBD, 0xDBD, 1), (0xDC0, 0xDC6, 1), (0xDCA, 0xDCA, 1), (0xDCF, 0xDD4, 1),
    (0xDD6, 0xDD6, 1), (0xDD8, 0xDDF, 1), (0xDE6, 0xDEF, 1), (0xDF2, 0xDF4, 1),
    (0x111E1, 0x111F4, 1)]

def sogdianScript : Script where
  names := ["sogdian", "sogd"]
  table := #[
    (0x10F30, 0x10F59, 1)]

def soraSompengScript : Script where
  names := ["sorasompeng", "sora"]
  table := #[
    (0x110D0, 0x110E8, 1), (0x110F0, 0x110F9, 1)]

def soyomboScript : Script where
  names := ["soyombo", "soyo"]
  table := #[
    (0x11A50, 0x11AA2, 1)]

def sundaneseScript : Script where
  names := ["sundanese", "sund"]
  table := #[
    (0x1B80, 0x1BBF, 1), (0x1CC0, 0x1CC7, 1)]

def sunuwarScript : Script where
  names := ["sunuwar", "sunu"]
  table := #[
    (0x11BC0, 0x11BE1, 1), (0x11BF0, 0x11BF9, 1)]

def sylotiNagriScript : Script where
  names := ["sylotinagri", "sylo"]
  table := #[
    (0xA800, 0xA82C, 1)]

def syriacScript : Script where
  names := ["syriac", "syrc"]
  table := #[
    (0x700, 0x70D, 1), (0x70F, 0x74A, 1), (0x74D, 0x74F, 1), (0x860, 0x86A, 1)]

def tagalogScript : Script where
  names := ["tagalog", "tglg"]
  table := #[
    (0x1700, 0x1715, 1), (0x171F, 0x171F, 1)]

def tagbanwaScript : Script where
  names := ["tagbanwa", "tagb"]
  table := #[
    (0x1760, 0x176C, 1), (0x176E, 0x1770, 1), (0x1772, 0x1773, 1)]

def taiLeScript : Script where
  names := ["taile", "tale"]
  table := #[
    (0x1950, 0x196D, 1), (0x1970, 0x1974, 1)]

def taiThamScript : Script where
  names := ["taitham", "lana"]
  table := #[
    (0x1A20, 0x1A5E, 1), (0x1A60, 0x1A7C, 1), (0x1A7F, 0x1A89, 1), (0x1A90, 0x1A99, 1),
    (0x1AA0, 0x1AAD, 1)]

def taiVietScript : Script where
  names := ["taiviet", "tavt"]
  table := #[
    (0xAA80, 0xAAC2, 1), (0xAADB, 0xAADF, 1)]

def taiYoScript : Script where
  names := ["taiyo", "tayo"]
  table := #[
    (0x1E6C0, 0x1E6DE, 1), (0x1E6E0, 0x1E6F5, 1), (0x1E6FE, 0x1E6FF, 1)]

def takriScript : Script where
  names := ["takri", "takr"]
  table := #[
    (0x11680, 0x116B9, 1), (0x116C0, 0x116C9, 1)]

def tamilScript : Script where
  names := ["tamil", "taml"]
  table := #[
    (0xB82, 0xB83, 1), (0xB85, 0xB8A, 1), (0xB8E, 0xB90, 1), (0xB92, 0xB95, 1),
    (0xB99, 0xB9A, 1), (0xB9C, 0xB9C, 1), (0xB9E, 0xB9F, 1), (0xBA3, 0xBA4, 1),
    (0xBA8, 0xBAA, 1), (0xBAE, 0xBB9, 1), (0xBBE, 0xBC2, 1), (0xBC6, 0xBC8, 1),
    (0xBCA, 0xBCD, 1), (0xBD0, 0xBD0, 1), (0xBD7, 0xBD7, 1), (0xBE6, 0xBFA, 1),
    (0x11FC0, 0x11FF1, 1), (0x11FFF, 0x11FFF, 1)]

def tangsaScript : Script where
  names := ["tangsa", "tnsa"]
  table := #[
    (0x16A70, 0x16ABE, 1), (0x16AC0, 0x16AC9, 1)]

def tangutScript : Script where
  names := ["tangut", "tang"]
  table := #[
    (0x16FE0, 0x16FE0, 1), (0x17000, 0x18AFF, 1), (0x18D00, 0x18D1E, 1), (0x18D80, 0x18DF2, 1)]

def teluguScript : Script where
  names := ["telugu", "telu"]
  table := #[
    (0xC00, 0xC0C, 1), (0xC0E, 0xC10, 1), (0xC12, 0xC28, 1), (0xC2A, 0xC39, 1),
    (0xC3C, 0xC44, 1), (0xC46, 0xC48, 1), (0xC4A, 0xC4D, 1), (0xC55, 0xC56, 1),
    (0xC58, 0xC5A, 1), (0xC5C, 0xC5D, 1), (0xC60, 0xC63, 1), (0xC66, 0xC6F, 1), (0xC77, 0xC7F, 1)]

def thaanaScript : Script where
  names := ["thaana", "thaa"]
  table := #[
    (0x780, 0x7B1, 1)]

def thaiScript : Script where
  names := ["thai"]
  table := #[
    (0xE01, 0xE3A, 1), (0xE40, 0xE5B, 1)]

def tibetanScript : Script where
  names := ["tibetan", "tibt"]
  table := #[
    (0xF00, 0xF47, 1), (0xF49, 0xF6C, 1), (0xF71, 0xF97, 1), (0xF99, 0xFBC, 1),
    (0xFBE, 0xFCC, 1), (0xFCE, 0xFD4, 1), (0xFD9, 0xFDA, 1)]

def tifinaghScript : Script where
  names := ["tifinagh", "tfng"]
  table := #[
    (0x2D30, 0x2D67, 1), (0x2D6F, 0x2D70, 1), (0x2D7F, 0x2D7F, 1)]

def tirhutaScript : Script where
  names := ["tirhuta", "tirh"]
  table := #[
    (0x11480, 0x114C7, 1), (0x114D0, 0x114D9, 1)]

def todhriScript : Script where
  names := ["todhri", "todr"]
  table := #[
    (0x105C0, 0x105F3, 1)]

def tolongSikiScript : Script where
  names := ["tolongsiki", "tols"]
  table := #[
    (0x11DB0, 0x11DDB, 1), (0x11DE0, 0x11DE9, 1)]

def totoScript : Script where
  names := ["toto"]
  table := #[
    (0x1E290, 0x1E2AE, 1)]

def tuluTigalariScript : Script where
  names := ["tulutigalari", "tutg"]
  table := #[
    (0x11380, 0x11389, 1), (0x1138B, 0x1138B, 1), (0x1138E, 0x1138E, 1), (0x11390, 0x113B5, 1),
    (0x113B7, 0x113C0, 1), (0x113C2, 0x113C2, 1), (0x113C5, 0x113C5, 1), (0x113C7, 0x113CA, 1),
    (0x113CC, 0x113D5, 1), (0x113D7, 0x113D8, 1), (0x113E1, 0x113E2, 1)]

def ugariticScript : Script where
  names := ["ugaritic", "ugar"]
  table := #[
    (0x10380, 0x1039D, 1), (0x1039F, 0x1039F, 1)]

def vaiScript : Script where
  names := ["vai", "vaii"]
  table := #[
    (0xA500, 0xA62B, 1)]

def vithkuqiScript : Script where
  names := ["vithkuqi", "vith"]
  table := #[
    (0x10570, 0x1057A, 1), (0x1057C, 0x1058A, 1), (0x1058C, 0x10592, 1), (0x10594, 0x10595, 1),
    (0x10597, 0x105A1, 1), (0x105A3, 0x105B1, 1), (0x105B3, 0x105B9, 1), (0x105BB, 0x105BC, 1)]

def wanchoScript : Script where
  names := ["wancho", "wcho"]
  table := #[
    (0x1E2C0, 0x1E2F9, 1), (0x1E2FF, 0x1E2FF, 1)]

def warangCitiScript : Script where
  names := ["warangciti", "wara"]
  table := #[
    (0x118A0, 0x118F2, 1), (0x118FF, 0x118FF, 1)]

def yezidiScript : Script where
  names := ["yezidi", "yezi"]
  table := #[
    (0x10E80, 0x10EA9, 1), (0x10EAB, 0x10EAD, 1), (0x10EB0, 0x10EB1, 1)]

def yiScript : Script where
  names := ["yi", "yiii"]
  table := #[
    (0xA000, 0xA48C, 1), (0xA490, 0xA4C6, 1)]

def zanabazarSquareScript : Script where
  names := ["zanabazarsquare", "zanb"]
  table := #[
    (0x11A00, 0x11A47, 1)]

def all : Array Script := #[
  adlamScript, ahomScript, anatolianHieroglyphsScript, arabicScript, armenianScript,
  avestanScript, balineseScript, bamumScript, bassaVahScript, batakScript, bengaliScript,
  beriaErfeScript, bhaiksukiScript, bopomofoScript, brahmiScript, brailleScript, bugineseScript,
  buhidScript, canadianAboriginalScript, carianScript, caucasianAlbanianScript, chakmaScript,
  chamScript, cherokeeScript, chorasmianScript, commonScript, copticScript, cuneiformScript,
  cypriotScript, cyproMinoanScript, cyrillicScript, deseretScript, devanagariScript,
  divesAkuruScript, dograScript, duployanScript, egyptianHieroglyphsScript, elbasanScript,
  elymaicScript, ethiopicScript, garayScript, georgianScript, glagoliticScript, gothicScript,
  granthaScript, greekScript, gujaratiScript, gunjalaGondiScript, gurmukhiScript,
  gurungKhemaScript, hanScript, hangulScript, hanifiRohingyaScript, hanunooScript, hatranScript,
  hebrewScript, hiraganaScript, imperialAramaicScript, inheritedScript,
  inscriptionalPahlaviScript, inscriptionalParthianScript, javaneseScript, kaithiScript,
  kannadaScript, katakanaScript, kawiScript, kayahLiScript, kharoshthiScript,
  khitanSmallScriptScript, khmerScript, khojkiScript, khudawadiScript, kiratRaiScript, laoScript,
  latinScript, lepchaScript, limbuScript, linearAScript, linearBScript, lisuScript, lycianScript,
  lydianScript, mahajaniScript, makasarScript, malayalamScript, mandaicScript, manichaeanScript,
  marchenScript, masaramGondiScript, medefaidrinScript, meeteiMayekScript, mendeKikakuiScript,
  meroiticCursiveScript, meroiticHieroglyphsScript, miaoScript, modiScript, mongolianScript,
  mroScript, multaniScript, myanmarScript, nabataeanScript, nagMundariScript, nandinagariScript,
  newTaiLueScript, newaScript, nkoScript, nushuScript, nyiakengPuachueHmongScript, oghamScript,
  olChikiScript, olOnalScript, oldHungarianScript, oldItalicScript, oldNorthArabianScript,
  oldPermicScript, oldPersianScript, oldSogdianScript, oldSouthArabianScript, oldTurkicScript,
  oldUyghurScript, oriyaScript, osageScript, osmanyaScript, pahawhHmongScript, palmyreneScript,
  pauCinHauScript, phagsPaScript, phoenicianScript, psalterPahlaviScript, rejangScript,
  runicScript, samaritanScript, saurashtraScript, sharadaScript, shavianScript, siddhamScript,
  sideticScript, signWritingScript, sinhalaScript, sogdianScript, soraSompengScript,
  soyomboScript, sundaneseScript, sunuwarScript, sylotiNagriScript, syriacScript, tagalogScript,
  tagbanwaScript, taiLeScript, taiThamScript, taiVietScript, taiYoScript, takriScript,
  tamilScript, tangsaScript, tangutScript, teluguScript, thaanaScript, thaiScript, tibetanScript,
  tifinaghScript, tirhutaScript, todhriScript, tolongSikiScript, totoScript, tuluTigalariScript,
  ugariticScript, vaiScript, vithkuqiScript, wanchoScript, warangCitiScript, yezidiScript,
  yiScript, zanabazarSquareScript]

def position? (name : String) : Option Nat :=
  all.findIdx? fun script => script.names.contains name

end Script
end RecordFilter
