import RecordFilter.Text.Decomposition
import RecordFilter.Text.LetterCase
import RecordFilter.Text.Space

/-!
# Comparison form of text

Text is compared without regard to letter case, diacritics and the way words are
separated.  Its comparison form is made by trimming, lower-casing, decomposing
and dropping all combining marks; every run of white space and dashes then
becomes one dash, and none is left at the ends.
-/

namespace RecordFilter

def isMark (c : Char) : Bool :=
  Category.nonspacingMarkTable.hasChar c || Category.spacingMarkTable.hasChar c ||
    Category.enclosingMarkTable.hasChar c

/-- White space and dashes separate words. -/
def isSeparator (c : Char) : Bool :=
  isSpace c || c == '-'

namespace Fold

def bareLower (cs : List Char) : List Char :=
  ((LetterCase.lower (trim cs)).flatMap Decomposition.decomposeChar).filter (!isMark ·)

/--
Write the characters with one dash for every run of separators between two words.
`started` says that a character was written before, `pending` that a separator
was read since.
-/
def dashed (started pending : Bool) : List Char → List Char
  | [] => []
  | c :: rest =>
      if isSeparator c then dashed started true rest
      else if pending && started then '-' :: c :: dashed true false rest
      else c :: dashed true false rest

end Fold

def foldChars (cs : List Char) : List Char :=
  Fold.dashed false false (Fold.bareLower cs)

/-- The comparison form of a text. -/
def foldText (text : String) : String :=
  String.ofList (foldChars text.toList)

end RecordFilter
