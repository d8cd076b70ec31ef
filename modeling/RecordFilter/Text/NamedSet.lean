import RecordFilter.Text.Age
import RecordFilter.Text.Break.Cluster
import RecordFilter.Text.Break.Sentence
import RecordFilter.Text.Break.Word
import RecordFilter.Text.Property
import RecordFilter.Text.Script.Shared

/-!
# Sets of characters with a name

The sets of characters that have a name of their own: categories, properties,
scripts, ages and the classes that text is broken by.
-/

namespace RecordFilter

/-- A named set; scripts and ages are known by their position. -/
inductive NamedSet where
  | category (kind : Category)
  | property (kind : CharProperty)
  | script (position : Nat)
  | usedInScript (position : Nat)
  | age (position : Nat)
  | clusterBreak (kind : ClusterBreak)
  | wordBreak (kind : WordBreak)
  | sentenceBreak (kind : SentenceBreak)
  | word
  deriving DecidableEq, Repr

namespace NamedSet

def codes : NamedSet → CodeSet
  | .category kind => kind.codes
  | .property kind => kind.codes
  | .script position => Script.codesAt position
  | .usedInScript position => Script.usedAt position
  | .age position => Age.codes position
  | .clusterBreak kind => kind.codes
  | .wordBreak kind => kind.codes
  | .sentenceBreak kind => kind.codes
  | .word => wordCharacters

end NamedSet
end RecordFilter
