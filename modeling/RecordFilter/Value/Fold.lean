import RecordFilter.Text.Fold
import RecordFilter.Value.Equality

/-!
# Comparison form of values

A value is brought to its comparison form by folding every string in it.  The
shape of containers and the keys of objects and maps stay as they are, but items
of a set that fold to equal items become one.
-/

namespace RecordFilter

namespace Value

mutual

/-- The value with all its strings in comparison form. -/
def folded : Value → Value
  | .string s => .string (foldText s)
  | .array items => .array (foldedItems items)
  | .set items => setOf (foldedItems items)
  | .map entries => .map (foldedEntries entries)
  | .object fields => .object (foldedFields fields)
  | v => v
termination_by structural v => v

def foldedItems : List Value → List Value
  | [] => []
  | item :: rest => folded item :: foldedItems rest
termination_by structural items => items

def foldedEntry : Value × Value → Value × Value
  | (key, value) => (key, folded value)
termination_by structural entry => entry

def foldedEntries : List (Value × Value) → List (Value × Value)
  | [] => []
  | entry :: rest => foldedEntry entry :: foldedEntries rest
termination_by structural entries => entries

def foldedField : String × Value → String × Value
  | (name, value) => (name, folded value)
termination_by structural field => field

def foldedFields : List (String × Value) → List (String × Value)
  | [] => []
  | field :: rest => foldedField field :: foldedFields rest
termination_by structural fields => fields

end

end Value
end RecordFilter
