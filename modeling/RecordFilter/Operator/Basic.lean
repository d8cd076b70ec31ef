import RecordFilter.Operator.Place
import RecordFilter.Operator.Record
import RecordFilter.Operator.Scalar
import RecordFilter.Operator.Sequence
import RecordFilter.Operator.Text
import RecordFilter.Operator.Time

/-!
# Operator families

There is a family of operators for each type that a criterion can have, and a type
without operators for tests of the caller's own.
-/

namespace RecordFilter

inductive CriterionType where
  | array
  | boolean
  | custom
  | date
  | geo
  | map
  | number
  | object
  | set
  | string
  deriving DecidableEq, Repr

inductive Operator where
  | array (op : ArrayOperator)
  | boolean (op : BooleanOperator)
  | date (op : DateOperator)
  | geo (op : GeoOperator)
  | map (op : MapOperator)
  | number (op : NumberOperator)
  | object (op : ObjectOperator)
  | set (op : SetOperator)
  | string (op : StringOperator)
  deriving DecidableEq, Repr

instance : Vocabulary CriterionType where
  all := [.array, .boolean, .custom, .date, .geo, .map, .number, .object, .set, .string]
  name
    | .array => "ARRAY"
    | .boolean => "BOOLEAN"
    | .custom => "CUSTOM"
    | .date => "DATE"
    | .geo => "GEO"
    | .map => "MAP"
    | .number => "NUMBER"
    | .object => "OBJECT"
    | .set => "SET"
    | .string => "STRING"
  otherName?
    | .string => some "TEXT"
    | _ => none

namespace CriterionType

def name (type : CriterionType) : String :=
  Vocabulary.name type

def ofName? (text : String) : Option CriterionType :=
  Vocabulary.ofName? text

def operators : CriterionType → List Operator
  | .array => Vocabulary.all.map .array
  | .boolean => Vocabulary.all.map .boolean
  | .custom => []
  | .date => Vocabulary.all.map .date
  | .geo => Vocabulary.all.map .geo
  | .map => Vocabulary.all.map .map
  | .number => Vocabulary.all.map .number
  | .object => Vocabulary.all.map .object
  | .set => Vocabulary.all.map .set
  | .string => Vocabulary.all.map .string

def operator? (type : CriterionType) (text : String) : Option Operator :=
  match type with
  | .array => (Vocabulary.ofName? text).map .array
  | .boolean => (Vocabulary.ofName? text).map .boolean
  | .custom => none
  | .date => (Vocabulary.ofName? text).map .date
  | .geo => (Vocabulary.ofName? text).map .geo
  | .map => (Vocabulary.ofName? text).map .map
  | .number => (Vocabulary.ofName? text).map .number
  | .object => (Vocabulary.ofName? text).map .object
  | .set => (Vocabulary.ofName? text).map .set
  | .string => (Vocabulary.ofName? text).map .string

/-- Whether values and operands of this type are compared in their comparison form. -/
def normalizes : CriterionType → Bool
  | .array | .map | .object | .set | .string => true
  | _ => false

/-- Whether an array is tested item by item. -/
def matchesInArray : CriterionType → Bool
  | .boolean | .date | .number | .string => true
  | _ => false

end CriterionType

namespace Operator

def type : Operator → CriterionType
  | .array _ => .array
  | .boolean _ => .boolean
  | .date _ => .date
  | .geo _ => .geo
  | .map _ => .map
  | .number _ => .number
  | .object _ => .object
  | .set _ => .set
  | .string _ => .string

def name : Operator → String
  | .array op => Vocabulary.name op
  | .boolean op => Vocabulary.name op
  | .date op => Vocabulary.name op
  | .geo op => Vocabulary.name op
  | .map op => Vocabulary.name op
  | .number op => Vocabulary.name op
  | .object op => Vocabulary.name op
  | .set op => Vocabulary.name op
  | .string op => Vocabulary.name op

/-- Test a value against an operand at the present instant `now`. -/
def holds (op : Operator) (now : Instant) (v operand : Value) : Bool :=
  match op with
  | .array op => op.holds v operand
  | .boolean op => op.holds v operand
  | .date op => op.holds now v operand
  | .geo op => op.holds v operand
  | .map op => op.holds v operand
  | .number op => op.holds v operand
  | .object op => op.holds v operand
  | .set op => op.holds v operand
  | .string op => op.holds v operand

end Operator
end RecordFilter
