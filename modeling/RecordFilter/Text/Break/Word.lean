import RecordFilter.Text.Property
import RecordFilter.Text.Script

/-!
# Breaks between words

The classes of characters that decide where words end.
-/

namespace RecordFilter

inductive WordBreak where
  | carriageReturn
  | lineFeed
  | newline
  | letter
  | hebrewLetter
  | katakana
  | numeric
  | midLetter
  | midNumber
  | midNumberOrLetter
  | extendNumberOrLetter
  | singleQuote
  | doubleQuote
  | extend
  | format
  | joiner
  | regionalIndicator
  | segmentSpace
  deriving DecidableEq, Repr

namespace WordBreak

open Category CharProperty

/-- Letters of writing systems that do not mark words and need a dictionary. -/
def complexContextTable : CodeTable := #[
  (0xE01, 0xE30, 1), (0xE32, 0xE33, 1), (0xE40, 0xE46, 1), (0xE81, 0xE82, 1), (0xE84, 0xE84, 1),
  (0xE86, 0xE8A, 1), (0xE8C, 0xEA3, 1), (0xEA5, 0xEA5, 1), (0xEA7, 0xEB0, 1), (0xEB2, 0xEB3, 1),
  (0xEBD, 0xEBD, 1), (0xEC0, 0xEC4, 1), (0xEC6, 0xEC6, 1), (0xEDC, 0xEDF, 1), (0x1000, 0x102A, 1),
  (0x103F, 0x103F, 1), (0x1050, 0x1055, 1), (0x105A, 0x105D, 1), (0x1061, 0x1061, 1),
  (0x1065, 0x1066, 1), (0x106E, 0x1070, 1), (0x1075, 0x1081, 1), (0x108E, 0x108E, 1),
  (0x1780, 0x17B3, 1), (0x17D7, 0x17D7, 1), (0x17DC, 0x17DC, 1), (0x1950, 0x196D, 1),
  (0x1970, 0x1974, 1), (0x1980, 0x19AB, 1), (0x19B0, 0x19C9, 1), (0x1A20, 0x1A54, 1),
  (0x1AA7, 0x1AA7, 1), (0xA9E0, 0xA9E4, 1), (0xA9E6, 0xA9EF, 1), (0xA9FA, 0xA9FE, 1),
  (0xAA60, 0xAA76, 1), (0xAA7A, 0xAA7A, 1), (0xAA7E, 0xAAAF, 1), (0xAAB1, 0xAAB1, 1),
  (0xAAB5, 0xAAB6, 1), (0xAAB9, 0xAABD, 1), (0xAAC0, 0xAAC2, 2), (0xAADB, 0xAADD, 1),
  (0x11700, 0x1171A, 1), (0x11740, 0x11746, 1)]

def wordSignTable : CodeTable := #[
  (0x2C2, 0x2C5, 1), (0x2D2, 0x2D7, 1), (0x2DE, 0x2DF, 1), (0x2E5, 0x2EB, 1), (0x2ED, 0x2ED, 1),
  (0x2EF, 0x2FF, 1), (0x55A, 0x55C, 1), (0x55E, 0x55E, 1), (0x58A, 0x58A, 1), (0x5F3, 0x5F3, 1),
  (0xA708, 0xA716, 1), (0xA720, 0xA721, 1), (0xA789, 0xA78A, 1), (0xAB5B, 0xAB5B, 1)]

def midNumberTable : CodeTable := #[
  (0x2C, 0x2C, 1), (0x3B, 0x3B, 1), (0x37E, 0x37E, 1), (0x589, 0x589, 1), (0x60C, 0x60D, 1),
  (0x66C, 0x66C, 1), (0x7F8, 0x7F8, 1), (0x2044, 0x2044, 1), (0xFE10, 0xFE10, 1),
  (0xFE14, 0xFE14, 1), (0xFE50, 0xFE50, 1), (0xFE54, 0xFE54, 1), (0xFF0C, 0xFF0C, 1),
  (0xFF1B, 0xFF1B, 1)]

/-- Punctuation between letters of a word. -/
def midLetterTable : CodeTable := #[
  (0x3A, 0x3A, 1), (0xB7, 0xB7, 1), (0x387, 0x387, 1), (0x55F, 0x55F, 1), (0x5F4, 0x5F4, 1),
  (0x2027, 0x2027, 1), (0xFE13, 0xFE13, 1), (0xFE55, 0xFE55, 1), (0xFF1A, 0xFF1A, 1)]

def midNumberOrLetterTable : CodeTable := #[
  (0x2E, 0x2E, 1), (0x2018, 0x2019, 1), (0x2024, 0x2024, 1), (0xFE52, 0xFE52, 1),
  (0xFF07, 0xFF07, 1), (0xFF0E, 0xFF0E, 1)]

/-- Signs that join letters, digits and each other. -/
def extendNumberOrLetterTable : CodeTable := #[
  (0x5F, 0x5F, 1), (0x202F, 0x202F, 1), (0x203F, 0x2040, 1), (0x2054, 0x2054, 1),
  (0xFE33, 0xFE34, 1), (0xFE4D, 0xFE4F, 1), (0xFF3F, 0xFF3F, 1)]

def katakanaSignTable : CodeTable := #[
  (0x3031, 0x3035, 1), (0x309B, 0x309C, 1), (0x30A0, 0x30A0, 1), (0x30FC, 0x30FC, 1),
  (0xFF70, 0xFF70, 1)]

/-- Blanks that may be broken at and have a width. -/
def segmentSpaceTable : CodeTable := #[
  (0x20, 0x20, 1), (0x1680, 0x1680, 1), (0x2000, 0x2006, 1), (0x2008, 0x200A, 1),
  (0x205F, 0x205F, 1), (0x3000, 0x3000, 1)]

def newlineTable : CodeTable := #[
  (0xB, 0xC, 1), (0x85, 0x85, 1), (0x2028, 0x2029, 1)]

def extending : CodeSet :=
  .diff
    (.unionAll [graphemeExtends, .table spacingMarkTable, CharProperty.emojiModifier.codes])
    (.single 0x200D)

def katakanas : CodeSet :=
  .ofTables [Script.katakanaScript.table, katakanaSignTable]

def hebrewLetters : CodeSet :=
  .inter (.table Script.hebrewScript.table) (.table Category.otherLetterTable)

/-- Letters and signs of words in the writing systems that mark words. -/
def letters : CodeSet :=
  .diff (.union alphabetics (.table wordSignTable))
    (.unionAll [
      .ofTables [ideographicTable, Script.hiraganaScript.table, complexContextTable],
      katakanas, hebrewLetters, extending])

def codes : WordBreak → CodeSet
  | .carriageReturn => .single 0xD
  | .lineFeed => .single 0xA
  | .newline => .table newlineTable
  | .letter => letters
  | .hebrewLetter => hebrewLetters
  | .katakana => katakanas
  | .numeric => .union (.table decimalNumberTable) (.single 0x66B)
  | .midLetter => .table midLetterTable
  | .midNumber => .table midNumberTable
  | .midNumberOrLetter => .table midNumberOrLetterTable
  | .extendNumberOrLetter => .table extendNumberOrLetterTable
  | .singleQuote => .single 0x27
  | .doubleQuote => .single 0x22
  | .extend => extending
  | .format =>
      .diff (.table formatTable) (.unionAll [.range 0x200B 0x200D, graphemeExtends])
  | .joiner => .single 0x200D
  | .regionalIndicator => CharProperty.regionalIndicator.codes
  | .segmentSpace => .table segmentSpaceTable

def names : WordBreak → List String
  | .carriageReturn => ["cr"]
  | .lineFeed => ["lf"]
  | .newline => ["newline", "nl"]
  | .letter => ["aletter", "le"]
  | .hebrewLetter => ["hebrewletter", "hl"]
  | .katakana => ["katakana", "ka"]
  | .numeric => ["numeric", "nu"]
  | .midLetter => ["midletter", "ml"]
  | .midNumber => ["midnum", "mn"]
  | .midNumberOrLetter => ["midnumlet", "mb"]
  | .extendNumberOrLetter => ["extendnumlet", "ex"]
  | .singleQuote => ["singlequote", "sq"]
  | .doubleQuote => ["doublequote", "dq"]
  | .extend => ["extend"]
  | .format => ["format", "fo"]
  | .joiner => ["zwj"]
  | .regionalIndicator => ["regionalindicator", "ri"]
  | .segmentSpace => ["wsegspace"]

def all : List WordBreak :=
  [.carriageReturn, .lineFeed, .newline, .letter, .hebrewLetter, .katakana, .numeric, .midLetter,
    .midNumber, .midNumberOrLetter, .extendNumberOrLetter, .singleQuote, .doubleQuote, .extend,
    .format, .joiner, .regionalIndicator, .segmentSpace]

def ofName? (name : String) : Option WordBreak :=
  all.find? fun kind => kind.names.contains name

end WordBreak
end RecordFilter
