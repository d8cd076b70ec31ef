import RecordFilter.Operator.Vocabulary
import RecordFilter.Value.Equality
import RecordFilter.Value.Order

/-!
# Operators on arrays and sets

A set is tested with the operators of arrays and with two for membership.  Arrays
count as sets where a set is expected, since JSON has no sets.  An operand of a
shape that an operator cannot work with makes it fail, negated operators included.
-/

namespace RecordFilter

inductive ArrayOperator where
  | exactlyMatches
  | includesAll
  | includesAny
  | notIncludesAll
  | notIncludesAny
  | size (comparison : Comparison)
  | isEmpty
  | isNotEmpty
  deriving DecidableEq, Repr

inductive SetOperator where
  | ofArray (op : ArrayOperator)
  | has
  | notHas
  deriving DecidableEq, Repr

instance : Vocabulary ArrayOperator where
  all := [.exactlyMatches, .includesAll, .includesAny, .notIncludesAll, .notIncludesAny,
    .size .equals, .size .greater, .size .greaterOrEquals, .size .less, .size .lessOrEquals,
    .isEmpty, .isNotEmpty]
  name
    | .exactlyMatches => "EXACTLY-MATCHES"
    | .includesAll => "INCLUDES-ALL"
    | .includesAny => "INCLUDES-ANY"
    | .notIncludesAll => "NOT-INCLUDES-ALL"
    | .notIncludesAny => "NOT-INCLUDES-ANY"
    | .size comparison => comparison.sizeName
    | .isEmpty => "IS-EMPTY"
    | .isNotEmpty => "IS-NOT-EMPTY"
  otherName?
    | .size comparison => comparison.otherSizeName?
    | _ => none

instance : Vocabulary SetOperator where
  all := (Vocabulary.all.map .ofArray) ++ [.has, .notHas]
  name
    | .ofArray op => Vocabulary.name op
    | .has => "HAS"
    | .notHas => "NOT-HAS"
  otherName?
    | .ofArray op => Vocabulary.otherName? op
    | _ => none

/-- Whether every wanted value is among the items. -/
def haveAll (items wanted : List Value) : Bool :=
  wanted.all (·.isAmong items)

def haveAny (items wanted : List Value) : Bool :=
  wanted.any (·.isAmong items)

/-- Whether the items are the expected ones in some order, repetitions counted. -/
def sameItems (items expected : List Value) : Bool :=
  items.length == expected.length &&
    Value.itemsAgree false (Value.sorted items) (Value.sorted expected)

def ArrayOperator.holdsOfItems (op : ArrayOperator) (items : List Value) (operand : Value) : Bool :=
  match op with
  | .exactlyMatches => operand.items?.any (sameItems items)
  | .includesAll => operand.items?.any (haveAll items)
  | .includesAny => operand.items?.any (haveAny items)
  | .notIncludesAll => operand.items?.any fun wanted => !haveAll items wanted
  | .notIncludesAny => operand.items?.any fun wanted => !haveAny items wanted
  | .size comparison => comparison.holdsOfSize items.length operand
  | .isEmpty => items.isEmpty
  | .isNotEmpty => !items.isEmpty

def ArrayOperator.holds (op : ArrayOperator) (v operand : Value) : Bool :=
  match v with
  | .array items => op.holdsOfItems items operand
  | _ => false

def SetOperator.holds (op : SetOperator) (v operand : Value) : Bool :=
  match v.items? with
  | none => false
  | some items =>
      match op with
      | .ofArray op => op.holdsOfItems items operand
      | .has => operand.isAmong items
      | .notHas => !operand.isAmong items

end RecordFilter
