import RecordFilter.Error
import RecordFilter.Path

/-!
# Criteria

A criterion tests the value that a path leads to against an operand.  The test is
one of the operators or a predicate of the caller's own.  Callers' functions are
known by an identifier, which the type of criteria is parametric in; what they do is
told only when criteria are evaluated.
-/

namespace RecordFilter

/-- The test that a criterion makes. -/
inductive Test (Hook : Type) where
  | operator (op : Operator)
  | custom (predicate : Hook)
  deriving DecidableEq, Repr

namespace Test

variable {Hook : Type}

def type : Test Hook → CriterionType
  | .operator op => op.type
  | .custom _ => .custom

def operatorName : Test Hook → String
  | .operator op => op.name
  | .custom _ => "CUSTOM"

def describe (test : Test Hook) : String :=
  test.type.name ++ ":" ++ test.operatorName

/-- The test as it is named in reasons. -/
def label (test : Test Hook) : String :=
  match test with
  | .operator op => op.type.name ++ " \"" ++ op.name ++ "\""
  | .custom _ => "CUSTOM predicate"

/-- The test with a type and the name of an operator; a custom test has no name. -/
def ofNames (type : CriterionType) (operator : String) : Except FilterError (Test Hook) :=
  match type with
  | .custom => .error (.invalid .typeField .customWithoutPredicate)
  | type =>
      match type.operator? operator with
      | some op => .ok (.operator op)
      | none => .error (.unknownOperator type operator)

/-- Apply an operator; a predicate is never run here and counts as failed. -/
def holds (test : Test Hook) (now : Instant) (v operand : Value) : Bool :=
  match test with
  | .operator op => op.holds now v operand
  | .custom _ => false

end Test

/-- Where the operand of a test comes from. -/
inductive Operand (Hook : Type) where
  | literal (v : Value)
  /-- Found in the record by a path. -/
  | path (names : Path)
  /-- Computed by a function of the caller. -/
  | computed (hook : Hook)

namespace Operand

variable {Hook : Type}

/-- The text that stands for an operand as long as its value is not known. -/
def describe : Operand Hook → String
  | .literal v => v.display
  | .path names => "$path:" ++ names.toText
  | .computed _ => "<computed>"

def inspect : Operand Hook → List Char
  | .literal v => v.inspect
  | operand => operand.describe.toList

end Operand

structure Criterion (Hook : Type) where
  test : Test Hook
  operand : Operand Hook
  /-- Leads to the value to test; an empty path leads to the whole record. -/
  path : Path
  /-- Tested in place of a value that is missing. -/
  default : Value
  /-- Whether value and operand are brought to their comparison form. -/
  normalize : Bool
  /-- Whether an array is tested item by item. -/
  matchInArray : Bool
  /-- Whether the criterion waits for the light ones beside it. -/
  heavy : Bool
  aliasName : Option String
  /-- Replaces the criterion before it is applied to a record. -/
  criterionMapper : Option Hook
  /-- Replaces the record before the path is followed. -/
  valueMapper : Option Hook

namespace Criterion

variable {Hook : Type}

/-- A criterion with the settings that its type has by default. -/
def ofTest (test : Test Hook) (operand : Value) : Criterion Hook where
  test := test
  operand := .literal operand
  path := []
  default := .undefined
  normalize := test.type.normalizes
  matchInArray := test.type.matchesInArray
  heavy := false
  aliasName := none
  criterionMapper := none
  valueMapper := none

def ofOperator (op : Operator) (path : String) (operand : Value) : Criterion Hook :=
  { ofTest (.operator op) operand with path := Path.ofText path }

def describe (criterion : Criterion Hook) : String :=
  criterion.test.describe

def inspect (criterion : Criterion Hook) : String :=
  let flag (b : Bool) : List Char := if b then "true".toList else "false".toList
  let aliasName :=
    match criterion.aliasName with
    | none => "None".toList
    | some aliasName => "Some(".toList ++ quoteText aliasName ++ [')']
  let fields : List (String × List Char) := [
    ("kind", criterion.describe.toList),
    ("match_value", criterion.operand.inspect),
    ("value_path", quoteText criterion.path.toText),
    ("default_value", criterion.default.inspect),
    ("normalize", flag criterion.normalize),
    ("match_in_array", flag criterion.matchInArray),
    ("heavy", flag criterion.heavy),
    ("alias", aliasName),
    ("criteria_mapper", flag criterion.criterionMapper.isSome),
    ("value_mapper", flag criterion.valueMapper.isSome)]
  let texts := fields.map fun (name, text) => name.toList ++ ": ".toList ++ text
  String.ofList ("Criterion \x7b ".toList ++ Value.separated texts ++ " \x7d".toList)

end Criterion
end RecordFilter
