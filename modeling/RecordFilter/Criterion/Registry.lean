import RecordFilter.Criterion.Basic

/-!
# Saved criteria

Criteria can be saved under their alias and referred to later.  A reference may
override the settings of the saved criterion, which itself is never changed.
-/

namespace RecordFilter

/-- A reference to a saved criterion, with what it overrides. -/
structure Reference (Hook : Type) where
  aliasName : String
  type : Option CriterionType
  operator : Option String
  operand : Option (Operand Hook)
  path : Option Path
  normalize : Option Bool
  matchInArray : Option Bool
  criterionMapper : Option Hook
  valueMapper : Option Hook

namespace Reference

variable {Hook : Type}

def ofAlias (aliasName : String) : Reference Hook where
  aliasName := aliasName
  type := none
  operator := none
  operand := none
  path := none
  normalize := none
  matchInArray := none
  criterionMapper := none
  valueMapper := none

def changesType (reference : Reference Hook) (saved : Criterion Hook) : Bool :=
  reference.type.any (· != saved.test.type)

/--
The test of a criterion under a reference.  If the type changes or an operator is
given, the operator is looked up anew among those of the resulting type.
-/
def test (reference : Reference Hook) (saved : Criterion Hook) :
    Except FilterError (Test Hook) :=
  if reference.changesType saved || reference.operator.isSome then
    let type := reference.type.getD saved.test.type
    let operator := reference.operator.getD saved.test.operatorName
    if saved.test.type = .custom ∧ type = .custom then
      .error (.invalid (.reference reference.aliasName) .customHasNoOperators)
    else Test.ofNames type operator
  else .ok saved.test

/-- The criterion that results from a saved one. -/
def applyTo (reference : Reference Hook) (saved : Criterion Hook) :
    Except FilterError (Criterion Hook) := do
  let test ← reference.test saved
  return { saved with
    test := test
    operand := reference.operand.getD saved.operand
    path := reference.path.getD saved.path
    default := if reference.changesType saved then .undefined else saved.default
    normalize := reference.normalize.getD saved.normalize
    matchInArray := reference.matchInArray.getD saved.matchInArray
    criterionMapper := reference.criterionMapper.or saved.criterionMapper
    valueMapper := reference.valueMapper.or saved.valueMapper }

end Reference

abbrev Registry (Hook : Type) := Keyed (Criterion Hook)

namespace Registry

variable {Hook : Type}

/-- The alias under which a criterion can be saved; an empty one will not do. -/
def aliasName? (criterion : Criterion Hook) : Option String :=
  criterion.aliasName.filter (· != "")

/-- Save a criterion under its alias, in place of any saved before. -/
def save (criterion : Criterion Hook) (registry : Registry Hook) :
    Except FilterError (Registry Hook) :=
  match aliasName? criterion with
  | some aliasName => .ok (Keyed.insert aliasName criterion registry)
  | none => .error .missingAlias

/-- The criterion that a reference stands for. -/
def resolve (registry : Registry Hook) (reference : Reference Hook) :
    Except FilterError (Criterion Hook) :=
  match registry.lookup reference.aliasName with
  | some saved => reference.applyTo saved
  | none => .error (.aliasNotFound reference.aliasName)

end Registry
end RecordFilter
