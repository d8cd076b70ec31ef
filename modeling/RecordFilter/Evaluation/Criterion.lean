import RecordFilter.Evaluation.Outcome
import RecordFilter.Evaluation.Workspace

/-!
# Evaluating a criterion

First the operand is determined.  A custom predicate is applied to it and the
record at once.  Any other criterion may be replaced by its mapper, which sees the
operand as a literal; otherwise the value that the path leads to is tested.  When
the walk branched, or an array is tested item by item, one item that passes is
enough.

A function of the caller that fails makes the criterion fail with its message.
-/

namespace RecordFilter

namespace Criterion

variable {Hook : Type}

def operandFor (env : Environment Hook) (record : Value) (criterion : Criterion Hook) :
    Attempt Hook Value :=
  match criterion.operand with
  | .literal v => return v
  | .path names =>
      return if record.isContainer then (Path.resolve record names .undefined).value
        else .undefined
  | .computed hook => Work.call hook (env.hooks.operand hook criterion record env.context)

/-- Fold a value if the criterion asks for it. -/
def normalizeFor (criterion : Criterion Hook) (v : Value) : Work Hook Value :=
  if criterion.normalize then Work.normalize v else return v

/-- The items to test one by one, with the word for them, if there is more than one value. -/
def itemsToTest (criterion : Criterion Hook) (branched : Bool) (v : Value) :
    Option (List Value × String) :=
  match v with
  | .array items =>
      if branched then some (items, "branch values")
      else if criterion.matchInArray then some (items, "array items")
      else none
  | _ => none

/-- The result of a test of the value found. -/
def judge (criterion : Criterion Hook) (now : Instant) (operand : Value) (branched : Bool)
    (v : Value) : CriterionResult :=
  let (passed, scope) :=
    match criterion.itemsToTest branched v with
    | some (items, word) =>
        (items.any fun item => criterion.test.holds now item operand,
          " on any of " ++ toString items.length ++ " " ++ word)
    | none => (criterion.test.holds now v operand, "")
  { operand := operand.display
    passed := passed
    reason := criterion.test.label ++ " " ++ verdictWord passed ++ scope
    value := v }

def testRecord (env : Environment Hook) (record : Value) (criterion : Criterion Hook)
    (operand : Value) : Attempt Hook CriterionResult := do
  let source ←
    match criterion.valueMapper with
    | none => pure record
    | some hook => Work.call hook (env.hooks.value hook criterion record env.context)
  let found := Path.resolve source criterion.path criterion.default
  let value ← criterion.normalizeFor found.value
  return criterion.judge env.now operand found.branched value

/-- Determine the operand and go on with it, unless the test is a predicate of the caller. -/
def withOperand (env : Environment Hook) (record : Value) (criterion : Criterion Hook)
    (next : Value → Attempt Hook CriterionResult) : Attempt Hook CriterionResult := do
  let operand ← criterion.operandFor env record
  match criterion.test with
  | .custom hook =>
      let passed ← Work.call hook (env.hooks.holds hook operand record)
      let reason := criterion.test.label ++ " " ++ verdictWord passed
      return ⟨operand.display, passed, reason, record⟩
  | .operator _ => next (← criterion.normalizeFor operand)

/-- A failure of a function of the caller becomes a result. -/
def settle (criterion : Criterion Hook) (attempt : Attempt Hook CriterionResult) :
    Work Hook CriterionResult := do
  match (← attempt.run) with
  | .ok result => return result
  | .error e =>
      Work.log .warn (criterion.test.label ++ " raised an error: " ++ e.text)
      return ⟨criterion.operand.describe, false, e.message, .undefined⟩

def evaluateAsIs (env : Environment Hook) (record : Value) (criterion : Criterion Hook) :
    Work Hook CriterionResult :=
  criterion.settle (criterion.withOperand env record (criterion.testRecord env record))

/-- Replace a criterion by means of its mapper; the result is not mapped again. -/
def mapWith (env : Environment Hook) (record : Value) (criterion : Criterion Hook) (hook : Hook)
    (operand : Value) : Attempt Hook (Criterion Hook) := do
  let seed := { criterion with operand := .literal operand, criterionMapper := none }
  let mapped ← Work.call hook (env.hooks.criterion hook seed record env.context)
  let turned := "Criteria mapper turned " ++ criterion.describe ++ " into " ++ mapped.describe
  (Work.log .debug turned : Work Hook Unit)
  return { mapped with criterionMapper := none }

def evaluate (env : Environment Hook) (record : Value) (criterion : Criterion Hook) :
    Work Hook CriterionResult :=
  criterion.settle <| criterion.withOperand env record fun operand => do
    match criterion.criterionMapper with
    | none => criterion.testRecord env record operand
    | some hook =>
        let mapped ← criterion.mapWith env record hook operand
        mapped.evaluateAsIs env record

end Criterion
end RecordFilter
