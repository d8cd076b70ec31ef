import RecordFilter.Value.Basic

/-!
# Canonical order

Values of all kinds are ordered together: first by kind, then by content.
Sequences compare item by item and a sequence comes after its own beginnings.
The order in which the members of sets and maps are stored does not count, so
they are sorted before they are compared: a value is first brought to a form in
which all sets and maps in it are sorted, and such forms are then compared item by
item.
-/

namespace RecordFilter

namespace Value

def rank : Value → Nat
  | .undefined => 0
  | .null => 1
  | .boolean _ => 2
  | .number _ => 3
  | .string _ => 4
  | .date _ => 5
  | .regex _ => 6
  | .array _ => 7
  | .set _ => 8
  | .map _ => 9
  | .object _ => 10

/-! ## Comparison of stored forms -/

mutual

/-- Compare two values with the members of sets and maps as they are stored. -/
def compareStored : Value → Value → Ordering
  | .boolean a, .boolean b => Ord.compare a b
  | .number a, .number b => a.compare b
  | .string a, .string b => Ord.compare a b
  | .date a, .date b => a.compare b
  | .regex a, .regex b => Ord.compare a.source b.source
  | .array as, .array bs => compareItems as bs
  | .set as, .set bs => compareItems as bs
  | .map as, .map bs => compareEntries as bs
  | .object as, .object bs => compareFields as bs
  | a, b => Ord.compare a.rank b.rank
termination_by structural a => a

def compareItems : List Value → List Value → Ordering
  | [], [] => .eq
  | [], _ :: _ => .lt
  | _ :: _, [] => .gt
  | a :: as, b :: bs => (compareStored a b).then (compareItems as bs)
termination_by structural as => as

def compareEntry : Value × Value → Value × Value → Ordering
  | (key, value), entry => (compareStored key entry.1).then (compareStored value entry.2)
termination_by structural a => a

def compareEntries : List (Value × Value) → List (Value × Value) → Ordering
  | [], [] => .eq
  | [], _ :: _ => .lt
  | _ :: _, [] => .gt
  | a :: as, b :: bs => (compareEntry a b).then (compareEntries as bs)
termination_by structural as => as

def compareField : String × Value → String × Value → Ordering
  | (name, value), field => (Ord.compare name field.1).then (compareStored value field.2)
termination_by structural a => a

def compareFields : List (String × Value) → List (String × Value) → Ordering
  | [], [] => .eq
  | [], _ :: _ => .lt
  | _ :: _, [] => .gt
  | a :: as, b :: bs => (compareField a b).then (compareFields as bs)
termination_by structural as => as

end

/-! ## Canonical forms -/

def sortStored (items : List Value) : List Value :=
  items.mergeSort fun a b => compareStored a b != .gt

def sortEntries (entries : List (Value × Value)) : List (Value × Value) :=
  entries.mergeSort fun a b => compareEntry a b != .gt

mutual

/-- The value with all sets and maps in it sorted. -/
def canonical : Value → Value
  | .array items => .array (canonicalItems items)
  | .set items => .set (sortStored (canonicalItems items))
  | .map entries => .map (sortEntries (canonicalEntries entries))
  | .object fields => .object (canonicalFields fields)
  | v => v
termination_by structural v => v

def canonicalItems : List Value → List Value
  | [] => []
  | item :: rest => canonical item :: canonicalItems rest
termination_by structural items => items

def canonicalEntry : Value × Value → Value × Value
  | (key, value) => (canonical key, canonical value)
termination_by structural entry => entry

def canonicalEntries : List (Value × Value) → List (Value × Value)
  | [] => []
  | entry :: rest => canonicalEntry entry :: canonicalEntries rest
termination_by structural entries => entries

def canonicalField : String × Value → String × Value
  | (name, value) => (name, canonical value)
termination_by structural field => field

def canonicalFields : List (String × Value) → List (String × Value)
  | [] => []
  | field :: rest => canonicalField field :: canonicalFields rest
termination_by structural fields => fields

end

/-! ## The order -/

/-- The canonical order of values. -/
def compare (a b : Value) : Ordering :=
  compareStored a.canonical b.canonical

def sorted (items : List Value) : List Value :=
  items.mergeSort fun a b => a.compare b != .gt

end Value
end RecordFilter
