import RecordFilter.Operator.Vocabulary
import RecordFilter.Value.Containment
import RecordFilter.Value.Text

/-!
# Operators on objects and maps

Maps are tested for sub-structure by way of objects, whose names are the display
texts of the keys of the map.  An object counts as a map where a map is expected.
-/

namespace RecordFilter

inductive ObjectOperator where
  | contains
  | notContains
  | equals
  | notEquals
  | hasKey
  | notHasKey
  | hasValue
  | notHasValue
  | isEmpty
  | isNotEmpty
  deriving DecidableEq, Repr

instance : Vocabulary ObjectOperator where
  all := [.contains, .notContains, .equals, .notEquals, .hasKey, .notHasKey, .hasValue,
    .notHasValue, .isEmpty, .isNotEmpty]
  name
    | .contains => "CONTAINS"
    | .notContains => "NOT-CONTAINS"
    | .equals => "EQUALS"
    | .notEquals => "NOT-EQUALS"
    | .hasKey => "HAS-KEY"
    | .notHasKey => "NOT-HAS-KEY"
    | .hasValue => "HAS-VALUE"
    | .notHasValue => "NOT-HAS-VALUE"
    | .isEmpty => "IS-EMPTY"
    | .isNotEmpty => "IS-NOT-EMPTY"
  otherName? _ := none

def ObjectOperator.holdsOfFields (op : ObjectOperator) (fields : List (String × Value))
    (operand : Value) : Bool :=
  match op with
  | .contains => operand.object?.isSome && (Value.object fields).contains operand
  | .notContains => operand.object?.isSome && !(Value.object fields).contains operand
  | .equals => operand.object?.isSome && Value.object fields == operand
  | .notEquals => operand.object?.isSome && Value.object fields != operand
  | .hasKey => operand.string?.any fun key => Keyed.contains key fields
  | .notHasKey => operand.string?.any fun key => !Keyed.contains key fields
  | .hasValue => operand.isAmong (Keyed.values fields)
  | .notHasValue => !operand.isAmong (Keyed.values fields)
  | .isEmpty => fields.isEmpty
  | .isNotEmpty => !fields.isEmpty

def ObjectOperator.holds (op : ObjectOperator) (v operand : Value) : Bool :=
  match v with
  | .object fields => op.holdsOfFields fields operand
  | _ => false

inductive MapOperator where
  | contains
  | hasKey
  | hasValue
  | size (comparison : Comparison)
  | isEmpty
  | isNotEmpty
  deriving DecidableEq, Repr

instance : Vocabulary MapOperator where
  all := [.contains, .hasKey, .hasValue, .size .equals, .size .greater, .size .greaterOrEquals,
    .size .less, .size .lessOrEquals, .isEmpty, .isNotEmpty]
  name
    | .contains => "CONTAINS"
    | .hasKey => "HAS-KEY"
    | .hasValue => "HAS-VALUE"
    | .size comparison => comparison.sizeName
    | .isEmpty => "IS-EMPTY"
    | .isNotEmpty => "IS-NOT-EMPTY"
  otherName?
    | .size comparison => comparison.otherSizeName?
    | _ => none

/-- The entries of a map, or of an object taken for a map. -/
def entries? : Value → Option (List (Value × Value))
  | .map entries => some entries
  | .object fields => some (fields.map fun field => (.string field.1, field.2))
  | _ => none

/-- The object with the display texts of the keys as names; the last of two equal ones stays. -/
def recordOf (entries : List (Value × Value)) : Value :=
  Value.ofFields (entries.map fun entry => (entry.1.display, entry.2))

def MapOperator.holdsOfEntries (op : MapOperator) (entries : List (Value × Value))
    (operand : Value) : Bool :=
  match op with
  | .contains => (entries? operand).any fun wanted => (recordOf entries).contains (recordOf wanted)
  | .hasKey => operand.isAmong (entries.map Prod.fst)
  | .hasValue => operand.isAmong (entries.map Prod.snd)
  | .size comparison => comparison.holdsOfSize entries.length operand
  | .isEmpty => entries.isEmpty
  | .isNotEmpty => !entries.isEmpty

def MapOperator.holds (op : MapOperator) (v operand : Value) : Bool :=
  (entries? v).any fun entries => op.holdsOfEntries entries operand

end RecordFilter
