import RecordFilter.Text.CodeSet
import RecordFilter.Text.LetterCase
import RecordFilter.Text.Property.Casing
import RecordFilter.Text.Property.Emoji
import RecordFilter.Text.Property.Letter
import RecordFilter.Text.Property.Mark
import RecordFilter.Text.Property.Symbol
import RecordFilter.Text.Space

/-!
# Properties of characters

Yes-or-no properties that patterns may name, beside the general categories.  Most
of them are put together from categories and a table of what the categories miss.
-/

namespace RecordFilter

inductive CharProperty where
  | alphabetic
  | asciiHexDigit
  | bidiControl
  | cased
  | caseIgnorable
  | changesWhenCasefolded
  | changesWhenCasemapped
  | changesWhenLowercased
  | changesWhenTitlecased
  | changesWhenUppercased
  | dash
  | defaultIgnorable
  | deprecated
  | diacritic
  | emoji
  | emojiComponent
  | emojiModifier
  | emojiModifierBase
  | emojiPresentation
  | extendedPictographic
  | extender
  | graphemeBase
  | graphemeExtend
  | graphemeLink
  | hexDigit
  | hyphen
  | idContinue
  | ideographic
  | idsBinaryOperator
  | idStart
  | idsTrinaryOperator
  | idsUnaryOperator
  | joinControl
  | logicalOrderException
  | lowercase
  | math
  | mathContinue
  | mathStart
  | modifierCombiningMark
  | noncharacter
  | otherAlphabetic
  | otherDefaultIgnorable
  | otherGraphemeExtend
  | otherIdContinue
  | otherIdStart
  | otherLowercase
  | otherMath
  | otherUppercase
  | patternSyntax
  | patternWhiteSpace
  | prependedConcatenationMark
  | quotationMark
  | radical
  | regionalIndicator
  | sentenceTerminal
  | softDotted
  | terminalPunctuation
  | unifiedIdeograph
  | uppercase
  | variationSelector
  | whiteSpace
  | xidContinue
  | xidStart
  deriving DecidableEq, Repr

namespace Category

/-- The members of a category as a set; unassigned is what no other category holds. -/
def codes : Category → CodeSet
  | .unassigned => .compl (.ofTables (assigned.map table))
  | kind => .table kind.table

def letters : CodeSet :=
  .ofTables [uppercaseLetterTable, lowercaseLetterTable, titlecaseLetterTable,
    modifierLetterTable, otherLetterTable]

def marks : CodeSet :=
  .ofTables [nonspacingMarkTable, spacingMarkTable, enclosingMarkTable]

end Category

namespace CharProperty

open Category

def isLetter (c : Char) : Bool :=
  letters.has c.toNat

def isAlphabetic (c : Char) : Bool :=
  isLetter c || Category.letterNumberTable.hasChar c || otherAlphabeticTable.hasChar c

def joinControls : CodeSet :=
  .range 0x200C 0x200D

def alphabetics : CodeSet :=
  .union letters (.ofTables [letterNumberTable, otherAlphabeticTable])

def lowercases : CodeSet :=
  .ofTables [lowercaseLetterTable, LetterCase.otherLowercaseTable]

def uppercases : CodeSet :=
  .ofTables [uppercaseLetterTable, LetterCase.otherUppercaseTable]

def graphemeExtends : CodeSet :=
  .ofTables [nonspacingMarkTable, enclosingMarkTable, otherExtendTable]

def patternCharacters : CodeSet :=
  .ofTables [patternSyntaxTable, patternSpaceTable]

def idStarts : CodeSet :=
  .diff (.union letters (.ofTables [letterNumberTable, otherIdStartTable])) patternCharacters

def idContinues : CodeSet :=
  .diff
    (.union idStarts
      (.ofTables [nonspacingMarkTable, spacingMarkTable, decimalNumberTable,
        connectorPunctuationTable, otherIdContinueTable]))
    patternCharacters

/-- Assigned characters that neither control anything nor extend another character. -/
def graphemeBases : CodeSet :=
  .compl
    (.unionAll [
      .ofTables [controlTable, formatTable, surrogateTable, privateUseTable, lineSeparatorTable,
        paragraphSeparatorTable],
      Category.unassigned.codes, graphemeExtends])

/-- Characters that are not shown when they are not supported. -/
def defaultIgnorables : CodeSet :=
  .diff (.ofTables [otherDefaultIgnorableTable, formatTable, variationSelectorTable])
    (.ofTables [Space.table, shownFormatTable, prependedMarkTable])

def codes : CharProperty → CodeSet
  | .alphabetic => alphabetics
  | .asciiHexDigit => .inter (.table hexDigitTable) (.range 0 0x7F)
  | .bidiControl => .table bidiControlTable
  | .cased => .unionAll [lowercases, uppercases, .table titlecaseLetterTable]
  | .caseIgnorable =>
      .ofTables [nonspacingMarkTable, enclosingMarkTable, formatTable, modifierLetterTable,
        modifierSymbolTable, LetterCase.midWordTable]
  | .changesWhenCasefolded => .table foldedTable
  | .changesWhenCasemapped => .ofTables [loweredTable, upperedTable, titledOnlyTable]
  | .changesWhenLowercased => .table loweredTable
  | .changesWhenTitlecased =>
      .union (.diff (.table upperedTable) (.table upperedOnlyTable)) (.table titledOnlyTable)
  | .changesWhenUppercased => .table upperedTable
  | .dash => .table dashTable
  | .defaultIgnorable => defaultIgnorables
  | .deprecated => .table deprecatedTable
  | .diacritic => .table diacriticTable
  | .emoji => .table emojiTable
  | .emojiComponent => .table emojiComponentTable
  | .emojiModifier => .range 0x1F3FB 0x1F3FF
  | .emojiModifierBase => .table emojiModifierBaseTable
  | .emojiPresentation => .table emojiPresentationTable
  | .extendedPictographic => .table extendedPictographicTable
  | .extender => .table extenderTable
  | .graphemeBase => graphemeBases
  | .graphemeExtend => graphemeExtends
  | .graphemeLink => .table graphemeLinkTable
  | .hexDigit => .table hexDigitTable
  | .hyphen => .table hyphenTable
  | .idContinue => idContinues
  | .ideographic => .table ideographicTable
  | .idsBinaryOperator => .table idsBinaryTable
  | .idStart => idStarts
  | .idsTrinaryOperator => .range 0x2FF2 0x2FF3
  | .idsUnaryOperator => .range 0x2FFE 0x2FFF
  | .joinControl => joinControls
  | .logicalOrderException => .table logicalOrderExceptionTable
  | .lowercase => lowercases
  | .math => .ofTables [mathSymbolTable, otherMathTable]
  | .mathContinue => .ofTables [mathStartTable, mathContinueTable]
  | .mathStart => .table mathStartTable
  | .modifierCombiningMark => .table modifierCombiningTable
  | .noncharacter => .table noncharacterTable
  | .otherAlphabetic => .table otherAlphabeticTable
  | .otherDefaultIgnorable => .table otherDefaultIgnorableTable
  | .otherGraphemeExtend => .table otherExtendTable
  | .otherIdContinue => .table otherIdContinueTable
  | .otherIdStart => .table otherIdStartTable
  | .otherLowercase => .table LetterCase.otherLowercaseTable
  | .otherMath => .table otherMathTable
  | .otherUppercase => .table LetterCase.otherUppercaseTable
  | .patternSyntax => .table patternSyntaxTable
  | .patternWhiteSpace => .table patternSpaceTable
  | .prependedConcatenationMark => .table prependedMarkTable
  | .quotationMark => .table quotationMarkTable
  | .radical => .table radicalTable
  | .regionalIndicator => .range 0x1F1E6 0x1F1FF
  | .sentenceTerminal => .table sentenceTerminalTable
  | .softDotted => .table softDottedTable
  | .terminalPunctuation => .table terminalPunctuationTable
  | .unifiedIdeograph => .table unifiedIdeographTable
  | .uppercase => uppercases
  | .variationSelector => .table variationSelectorTable
  | .whiteSpace => .table Space.table
  | .xidContinue => .diff idContinues (.table unstableIdContinueTable)
  | .xidStart => .diff idStarts (.table unstableIdStartTable)

def holds (property : CharProperty) (c : Char) : Bool :=
  property.codes.has c.toNat

/-- The names of a property, without blanks, dashes and capitals. -/
def names : CharProperty → List String
  | .alphabetic => ["alphabetic", "alpha"]
  | .asciiHexDigit => ["asciihexdigit", "ahex"]
  | .bidiControl => ["bidicontrol", "bidic"]
  | .cased => ["cased"]
  | .caseIgnorable => ["caseignorable", "ci"]
  | .changesWhenCasefolded => ["changeswhencasefolded", "cwcf"]
  | .changesWhenCasemapped => ["changeswhencasemapped", "cwcm"]
  | .changesWhenLowercased => ["changeswhenlowercased", "cwl"]
  | .changesWhenTitlecased => ["changeswhentitlecased", "cwt"]
  | .changesWhenUppercased => ["changeswhenuppercased", "cwu"]
  | .dash => ["dash"]
  | .defaultIgnorable => ["defaultignorablecodepoint", "di"]
  | .deprecated => ["deprecated", "dep"]
  | .diacritic => ["diacritic", "dia"]
  | .emoji => ["emoji"]
  | .emojiComponent => ["emojicomponent", "ecomp"]
  | .emojiModifier => ["emojimodifier", "emod"]
  | .emojiModifierBase => ["emojimodifierbase", "ebase"]
  | .emojiPresentation => ["emojipresentation", "epres"]
  | .extendedPictographic => ["extendedpictographic", "extpict"]
  | .extender => ["extender", "ext"]
  | .graphemeBase => ["graphemebase", "grbase"]
  | .graphemeExtend => ["graphemeextend", "grext"]
  | .graphemeLink => ["graphemelink", "grlink"]
  | .hexDigit => ["hexdigit", "hex"]
  | .hyphen => ["hyphen"]
  | .idContinue => ["idcontinue", "idc"]
  | .ideographic => ["ideographic", "ideo"]
  | .idsBinaryOperator => ["idsbinaryoperator", "idsb"]
  | .idStart => ["idstart", "ids"]
  | .idsTrinaryOperator => ["idstrinaryoperator", "idst"]
  | .idsUnaryOperator => ["idsunaryoperator", "idsu"]
  | .joinControl => ["joincontrol", "joinc"]
  | .logicalOrderException => ["logicalorderexception", "loe"]
  | .lowercase => ["lowercase", "lower"]
  | .math => ["math"]
  | .mathContinue => ["idcompatmathcontinue"]
  | .mathStart => ["idcompatmathstart"]
  | .modifierCombiningMark => ["modifiercombiningmark", "mcm"]
  | .noncharacter => ["noncharactercodepoint", "nchar"]
  | .otherAlphabetic => ["otheralphabetic", "oalpha"]
  | .otherDefaultIgnorable => ["otherdefaultignorablecodepoint", "odi"]
  | .otherGraphemeExtend => ["othergraphemeextend", "ogrext"]
  | .otherIdContinue => ["otheridcontinue", "oidc"]
  | .otherIdStart => ["otheridstart", "oids"]
  | .otherLowercase => ["otherlowercase", "olower"]
  | .otherMath => ["othermath", "omath"]
  | .otherUppercase => ["otheruppercase", "oupper"]
  | .patternSyntax => ["patternsyntax", "patsyn"]
  | .patternWhiteSpace => ["patternwhitespace", "patws"]
  | .prependedConcatenationMark => ["prependedconcatenationmark", "pcm"]
  | .quotationMark => ["quotationmark", "qmark"]
  | .radical => ["radical"]
  | .regionalIndicator => ["regionalindicator", "ri"]
  | .sentenceTerminal => ["sentenceterminal", "sterm"]
  | .softDotted => ["softdotted", "sd"]
  | .terminalPunctuation => ["terminalpunctuation", "term"]
  | .unifiedIdeograph => ["unifiedideograph", "uideo"]
  | .uppercase => ["uppercase", "upper"]
  | .variationSelector => ["variationselector", "vs"]
  | .whiteSpace => ["whitespace", "space", "wspace"]
  | .xidContinue => ["xidcontinue", "xidc"]
  | .xidStart => ["xidstart", "xids"]

def all : List CharProperty :=
  [.alphabetic, .asciiHexDigit, .bidiControl, .cased, .caseIgnorable, .changesWhenCasefolded,
    .changesWhenCasemapped, .changesWhenLowercased, .changesWhenTitlecased,
    .changesWhenUppercased, .dash, .defaultIgnorable, .deprecated, .diacritic, .emoji,
    .emojiComponent, .emojiModifier, .emojiModifierBase, .emojiPresentation,
    .extendedPictographic, .extender, .graphemeBase, .graphemeExtend, .graphemeLink, .hexDigit,
    .hyphen, .idContinue, .ideographic, .idsBinaryOperator, .idStart, .idsTrinaryOperator,
    .idsUnaryOperator, .joinControl, .logicalOrderException, .lowercase, .math, .mathContinue,
    .mathStart, .modifierCombiningMark, .noncharacter, .otherAlphabetic, .otherDefaultIgnorable,
    .otherGraphemeExtend, .otherIdContinue, .otherIdStart, .otherLowercase, .otherMath,
    .otherUppercase, .patternSyntax, .patternWhiteSpace, .prependedConcatenationMark,
    .quotationMark, .radical, .regionalIndicator, .sentenceTerminal, .softDotted,
    .terminalPunctuation, .unifiedIdeograph, .uppercase, .variationSelector, .whiteSpace,
    .xidContinue, .xidStart]

def ofName? (name : String) : Option CharProperty :=
  all.find? fun property => property.names.contains name

end CharProperty

def wordCharacters : CodeSet :=
  .unionAll [CharProperty.alphabetics, Category.marks,
    .ofTables [Category.decimalNumberTable, Category.connectorPunctuationTable],
    CharProperty.joinControls]

def isWordChar (c : Char) : Bool :=
  wordCharacters.has c.toNat

def isAsciiWordChar (c : Char) : Bool :=
  c.isAlphanum || c == '_'

namespace Category

/-- The names of the categories and of their unions, without blanks, dashes and capitals. -/
def named : List (List String × List Category) := [
  (["c", "other"], [.control, .format, .privateUse, .unassigned]),
  (["cc", "control", "cntrl"], [.control]),
  (["cf", "format"], [.format]),
  (["cn", "unassigned"], [.unassigned]),
  (["co", "privateuse"], [.privateUse]),
  (["l", "letter"],
    [.uppercaseLetter, .lowercaseLetter, .titlecaseLetter, .modifierLetter, .otherLetter]),
  (["lc", "casedletter"], [.uppercaseLetter, .lowercaseLetter, .titlecaseLetter]),
  (["ll", "lowercaseletter"], [.lowercaseLetter]),
  (["lm", "modifierletter"], [.modifierLetter]),
  (["lo", "otherletter"], [.otherLetter]),
  (["lt", "titlecaseletter"], [.titlecaseLetter]),
  (["lu", "uppercaseletter"], [.uppercaseLetter]),
  (["m", "mark", "combiningmark"], [.nonspacingMark, .spacingMark, .enclosingMark]),
  (["mc", "spacingmark"], [.spacingMark]),
  (["me", "enclosingmark"], [.enclosingMark]),
  (["mn", "nonspacingmark"], [.nonspacingMark]),
  (["n", "number"], [.decimalNumber, .letterNumber, .otherNumber]),
  (["nd", "decimalnumber", "digit"], [.decimalNumber]),
  (["nl", "letternumber"], [.letterNumber]),
  (["no", "othernumber"], [.otherNumber]),
  (["p", "punctuation", "punct"],
    [.connectorPunctuation, .dashPunctuation, .openPunctuation, .closePunctuation,
      .initialPunctuation, .finalPunctuation, .otherPunctuation]),
  (["pc", "connectorpunctuation"], [.connectorPunctuation]),
  (["pd", "dashpunctuation"], [.dashPunctuation]),
  (["pe", "closepunctuation"], [.closePunctuation]),
  (["pf", "finalpunctuation"], [.finalPunctuation]),
  (["pi", "initialpunctuation"], [.initialPunctuation]),
  (["po", "otherpunctuation"], [.otherPunctuation]),
  (["ps", "openpunctuation"], [.openPunctuation]),
  (["s", "symbol"], [.mathSymbol, .currencySymbol, .modifierSymbol, .otherSymbol]),
  (["sc", "currencysymbol"], [.currencySymbol]),
  (["sk", "modifiersymbol"], [.modifierSymbol]),
  (["sm", "mathsymbol"], [.mathSymbol]),
  (["so", "othersymbol"], [.otherSymbol]),
  (["z", "separator"], [.spaceSeparator, .lineSeparator, .paragraphSeparator]),
  (["zl", "lineseparator"], [.lineSeparator]),
  (["zp", "paragraphseparator"], [.paragraphSeparator]),
  (["zs", "spaceseparator"], [.spaceSeparator])]

def ofName? (name : String) : Option (List Category) :=
  (named.find? fun entry => entry.1.contains name).map Prod.snd

end Category
end RecordFilter
