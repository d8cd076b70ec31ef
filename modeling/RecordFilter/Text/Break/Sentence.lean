import RecordFilter.Text.Property

/-!
# Breaks between sentences

The classes of characters that decide where sentences end.
-/

namespace RecordFilter

inductive SentenceBreak where
  | carriageReturn
  | lineFeed
  | separator
  | space
  | lower
  | upper
  | letter
  | numeric
  | ambiguousTerminal
  | terminal
  | continuation
  | close
  | extend
  | format
  deriving DecidableEq, Repr

namespace SentenceBreak

open Category CharProperty

/-- Signs that end a sentence or something shorter. -/
def ambiguousTerminalTable : CodeTable := #[
  (0x2E, 0x2E, 1), (0x2024, 0x2024, 1), (0xFE52, 0xFE52, 1), (0xFF0E, 0xFF0E, 1)]

/-- Signs after which a sentence goes on. -/
def continuationTable : CodeTable := #[
  (0x2C, 0x2D, 1), (0x3A, 0x3B, 1), (0x37E, 0x37E, 1), (0x55D, 0x55D, 1), (0x60C, 0x60D, 1),
  (0x7F8, 0x7F8, 1), (0x1802, 0x1802, 1), (0x1808, 0x1808, 1), (0x2013, 0x2014, 1),
  (0x3001, 0x3001, 1), (0xFE10, 0xFE11, 1), (0xFE13, 0xFE14, 1), (0xFE31, 0xFE32, 1),
  (0xFE50, 0xFE51, 1), (0xFE54, 0xFE55, 1), (0xFE58, 0xFE58, 1), (0xFE63, 0xFE63, 1),
  (0xFF0C, 0xFF0D, 1), (0xFF1A, 0xFF1B, 1), (0xFF64, 0xFF64, 1)]

/-- Quotation marks that are neither opening nor closing punctuation. -/
def quoteTable : CodeTable := #[
  (0x22, 0x22, 1), (0x27, 0x27, 1), (0x275B, 0x2760, 1), (0x2E00, 0x2E01, 1), (0x2E06, 0x2E08, 1),
  (0x2E0B, 0x2E0B, 1), (0x1F676, 0x1F678, 1)]

def separatorTable : CodeTable := #[
  (0x85, 0x85, 1), (0x2028, 0x2029, 1)]

/-- Small letters of Georgian, which start sentences too. -/
def smallGeorgianTable : CodeTable := #[
  (0x10D0, 0x10FA, 1), (0x10FD, 0x10FF, 1)]

/-- Capital letters of Georgian, which do not mark the start of a sentence. -/
def capitalGeorgianTable : CodeTable := #[
  (0x1C90, 0x1CBA, 1), (0x1CBD, 0x1CBF, 1)]

def extending : CodeSet :=
  .unionAll [graphemeExtends, .table spacingMarkTable, .single 0x200D]

def lowers : CodeSet :=
  .diff lowercases (.union graphemeExtends (.table smallGeorgianTable))

def uppers : CodeSet :=
  .diff (.union uppercases (.table titlecaseLetterTable)) (.table capitalGeorgianTable)

def codes : SentenceBreak → CodeSet
  | .carriageReturn => .single 0xD
  | .lineFeed => .single 0xA
  | .separator => .table separatorTable
  | .space =>
      .diff (.table Space.table)
        (.ofTables [separatorTable, #[(0xA, 0xA, 1)], #[(0xD, 0xD, 1)]])
  | .lower => lowers
  | .upper => uppers
  | .letter =>
      .diff (.union alphabetics (.single 0x5F3)) (.unionAll [lowers, uppers, extending])
  | .numeric => .union (.table decimalNumberTable) (.range 0x66B 0x66C)
  | .ambiguousTerminal => .table ambiguousTerminalTable
  | .terminal => .diff (.table sentenceTerminalTable) (.table ambiguousTerminalTable)
  | .continuation => .table continuationTable
  | .close =>
      .ofTables [openPunctuationTable, closePunctuationTable, initialPunctuationTable,
        finalPunctuationTable, quoteTable]
  | .extend => extending
  | .format => .diff (.table formatTable) (.union joinControls graphemeExtends)

def names : SentenceBreak → List String
  | .carriageReturn => ["cr"]
  | .lineFeed => ["lf"]
  | .separator => ["sep", "se"]
  | .space => ["sp"]
  | .lower => ["lower", "lo"]
  | .upper => ["upper", "up"]
  | .letter => ["oletter", "le"]
  | .numeric => ["numeric", "nu"]
  | .ambiguousTerminal => ["aterm", "at"]
  | .terminal => ["sterm", "st"]
  | .continuation => ["scontinue", "sc"]
  | .close => ["close", "cl"]
  | .extend => ["extend", "ex"]
  | .format => ["format", "fo"]

def all : List SentenceBreak :=
  [.carriageReturn, .lineFeed, .separator, .space, .lower, .upper, .letter, .numeric,
    .ambiguousTerminal, .terminal, .continuation, .close, .extend, .format]

def ofName? (name : String) : Option SentenceBreak :=
  all.find? fun kind => kind.names.contains name

end SentenceBreak
end RecordFilter
