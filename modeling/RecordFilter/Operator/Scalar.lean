import RecordFilter.Operator.Vocabulary
import RecordFilter.Value.Equality

/-!
# Operators on booleans and numbers

The Boolean family also tests equality in general and the kinds of absence, so its
operators apply to values of every kind.  A number is compared with a number or
with an array of numbers; against anything else every operator fails.
-/

namespace RecordFilter

inductive BooleanOperator where
  | equals
  | notEquals
  | strictEqual
  | strictNotEqual
  | is
  | isNot
  | isTruthy
  | isFalsy
  | isNil
  | isNotNil
  | isNull
  | isNotNull
  | isUndefined
  | isDefined
  deriving DecidableEq, Repr

instance : Vocabulary BooleanOperator where
  all := [.equals, .notEquals, .strictEqual, .strictNotEqual, .is, .isNot, .isTruthy, .isFalsy,
    .isNil, .isNotNil, .isNull, .isNotNull, .isUndefined, .isDefined]
  name
    | .equals => "EQUALS"
    | .notEquals => "NOT-EQUALS"
    | .strictEqual => "STRICT-EQUAL"
    | .strictNotEqual => "STRICT-NOT-EQUAL"
    | .is => "IS"
    | .isNot => "IS-NOT"
    | .isTruthy => "IS-TRUTHY"
    | .isFalsy => "IS-FALSY"
    | .isNil => "IS-NIL"
    | .isNotNil => "IS-NOT-NIL"
    | .isNull => "IS-NULL"
    | .isNotNull => "IS-NOT-NULL"
    | .isUndefined => "IS-UNDEFINED"
    | .isDefined => "IS-DEFINED"
  otherName? _ := none

def BooleanOperator.holds (op : BooleanOperator) (v operand : Value) : Bool :=
  match op with
  | .equals => v == operand
  | .notEquals => v != operand
  | .strictEqual => v.isIdentical operand
  | .strictNotEqual => !v.isIdentical operand
  | .is =>
      match v, operand with
      | .boolean a, .boolean b => a == b
      | _, _ => false
  | .isNot =>
      match v, operand with
      | .boolean a, .boolean b => a != b
      | _, _ => false
  | .isTruthy => v.isTruthy
  | .isFalsy => !v.isTruthy
  | .isNil => v.isNil
  | .isNotNil => !v.isNil
  | .isNull => v.isNull
  | .isNotNull => !v.isNull
  | .isUndefined => v.isUndefined
  | .isDefined => !v.isUndefined

inductive NumberOperator where
  | compare (comparison : Comparison)
  | notEquals
  | between
  | notBetween
  | among
  | notAmong
  deriving DecidableEq, Repr

instance : Vocabulary NumberOperator where
  all := [.compare .equals, .notEquals, .compare .greater, .compare .greaterOrEquals,
    .compare .less, .compare .lessOrEquals, .between, .notBetween, .among, .notAmong]
  name
    | .compare comparison => comparison.name
    | .notEquals => "NOT-EQUALS"
    | .between => "BETWEEN"
    | .notBetween => "NOT-BETWEEN"
    | .among => "IN"
    | .notAmong => "NOT-IN"
  otherName?
    | .compare comparison => comparison.otherName?
    | _ => none

def numbers? (operand : Value) : Option (List Number) :=
  operand.array?.bind (·.mapM Value.number?)

/-- The two numbers of an array that holds just these. -/
def bounds? (operand : Value) : Option (Number × Number) :=
  match numbers? operand with
  | some [low, high] => some (low, high)
  | _ => none

def NumberOperator.holdsOfNumber (op : NumberOperator) (n : Number) (operand : Value) : Bool :=
  match op with
  | .compare comparison => operand.number?.any (comparison.holds n)
  | .notEquals => operand.number?.any fun target => !n.equals target
  | .between =>
      (bounds? operand).any fun (low, high) => low.atMost n && n.atMost high
  | .notBetween =>
      (bounds? operand).any fun (low, high) => n.less low || high.less n
  | .among => (numbers? operand).any fun list => list.any n.equals
  | .notAmong => (numbers? operand).any fun list => !list.any n.equals

def NumberOperator.holds (op : NumberOperator) (v operand : Value) : Bool :=
  match v with
  | .number n => op.holdsOfNumber n operand
  | _ => false

end RecordFilter
