import RecordFilter.Text.Property

/-!
# Breaks between clusters

The classes of characters that decide where one visible character ends and the next
one begins.
-/

namespace RecordFilter

inductive ClusterBreak where
  | carriageReturn
  | lineFeed
  | control
  | extend
  | joiner
  | regionalIndicator
  | prepend
  | spacingMark
  | leadingJamo
  | vowelJamo
  | trailingJamo
  | openSyllable
  | closedSyllable
  deriving DecidableEq, Repr

namespace ClusterBreak

open Category CharProperty

/-- Signs that belong to the character after them. -/
def prependTable : CodeTable := #[
  (0x600, 0x605, 1), (0x6DD, 0x6DD, 1), (0x70F, 0x70F, 1), (0x890, 0x891, 1), (0x8E2, 0x8E2, 1),
  (0xD4E, 0xD4E, 1), (0x110BD, 0x110BD, 1), (0x110CD, 0x110CD, 1), (0x111C2, 0x111C3, 1),
  (0x113D1, 0x113D1, 1), (0x1193F, 0x11941, 2), (0x11A3A, 0x11A3A, 1), (0x11A84, 0x11A89, 1),
  (0x11D46, 0x11D46, 1), (0x11F02, 0x11F02, 1)]

/-- Spacing marks that stand apart from the character before them. -/
def separateMarkTable : CodeTable := #[
  (0x102B, 0x102C, 1), (0x1038, 0x1038, 1), (0x1062, 0x1064, 1), (0x1067, 0x106D, 1),
  (0x1083, 0x1083, 1), (0x1087, 0x108C, 1), (0x108F, 0x108F, 1), (0x109A, 0x109C, 1),
  (0x1A61, 0x1A61, 1), (0x1A63, 0x1A64, 1), (0xAA7B, 0xAA7B, 1), (0xAA7D, 0xAA7D, 1),
  (0x11720, 0x11721, 1)]

def vowelJamoTable : CodeTable := #[
  (0x1160, 0x11A7, 1), (0xD7B0, 0xD7C6, 1), (0x16D63, 0x16D63, 1), (0x16D67, 0x16D6A, 1)]

/-- Controls that are neither line ends nor part of a cluster. -/
def controls : CodeSet :=
  .unionAll [
    .ofTables [lineSeparatorTable, paragraphSeparatorTable],
    .diff (.table controlTable) (.ofTables [#[(0xA, 0xA, 1)], #[(0xD, 0xD, 1)]]),
    .diff (.table formatTable)
      (.unionAll [joinControls, .table prependedMarkTable, graphemeExtends]),
    .inter Category.unassigned.codes defaultIgnorables]

def openSyllables : CodeSet :=
  .table #[(0xAC00, 0xD788, 28)]

def codes : ClusterBreak → CodeSet
  | .carriageReturn => .single 0xD
  | .lineFeed => .single 0xA
  | .control => controls
  | .extend => .diff (.union graphemeExtends CharProperty.emojiModifier.codes) (.single 0x200D)
  | .joiner => .single 0x200D
  | .regionalIndicator => CharProperty.regionalIndicator.codes
  | .prepend => .table prependTable
  | .spacingMark =>
      .union (.ofTables [#[(0xE33, 0xE33, 1)], #[(0xEB3, 0xEB3, 1)]])
        (.diff (.table spacingMarkTable) (.union graphemeExtends (.table separateMarkTable)))
  | .leadingJamo => .ofTables [#[(0x1100, 0x115F, 1)], #[(0xA960, 0xA97C, 1)]]
  | .vowelJamo => .table vowelJamoTable
  | .trailingJamo => .ofTables [#[(0x11A8, 0x11FF, 1)], #[(0xD7CB, 0xD7FB, 1)]]
  | .openSyllable => openSyllables
  | .closedSyllable => .diff (.range 0xAC00 0xD7A3) openSyllables

/-- The names of a class, without blanks, dashes and capitals. -/
def names : ClusterBreak → List String
  | .carriageReturn => ["cr"]
  | .lineFeed => ["lf"]
  | .control => ["control", "cn"]
  | .extend => ["extend", "ex"]
  | .joiner => ["zwj"]
  | .regionalIndicator => ["regionalindicator", "ri"]
  | .prepend => ["prepend", "pp"]
  | .spacingMark => ["spacingmark", "sm"]
  | .leadingJamo => ["l"]
  | .vowelJamo => ["v"]
  | .trailingJamo => ["t"]
  | .openSyllable => ["lv"]
  | .closedSyllable => ["lvt"]

def all : List ClusterBreak :=
  [.carriageReturn, .lineFeed, .control, .extend, .joiner, .regionalIndicator, .prepend,
    .spacingMark, .leadingJamo, .vowelJamo, .trailingJamo, .openSyllable, .closedSyllable]

def ofName? (name : String) : Option ClusterBreak :=
  all.find? fun kind => kind.names.contains name

end ClusterBreak
end RecordFilter
