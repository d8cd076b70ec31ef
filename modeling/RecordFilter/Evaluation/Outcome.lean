import RecordFilter.Expression.Basic

/-!
# Outcomes

The outcome of an evaluation has the level of the expression that was evaluated
and gives a reason at every level.  The results of filters and groups list what was
evaluated, in the order in which the members are declared.
-/

namespace RecordFilter

/-- The outcome of one criterion. -/
structure CriterionResult where
  /-- The text of the operand in effect. -/
  operand : String
  passed : Bool
  reason : String
  /-- What the test was applied to. -/
  value : Value

structure FilterResult where
  connective : Connective
  passed : Bool
  reason : String
  results : List CriterionResult

structure GroupResult where
  connective : Connective
  passed : Bool
  reason : String
  results : List FilterResult

inductive Outcome where
  | criterion (result : CriterionResult)
  | filter (result : FilterResult)
  | group (result : GroupResult)

def verdictWord (passed : Bool) : String :=
  if passed then "passed" else "failed"

namespace CriterionResult

def toJson (result : CriterionResult) : Json :=
  .object [("matchValue", .string result.operand), ("passed", .bool result.passed),
    ("reason", .string result.reason), ("value", result.value.toJson)]

end CriterionResult

namespace FilterResult

def ofResults (connective : Connective) (results : List CriterionResult) : FilterResult :=
  let passed := connective.combine (results.map CriterionResult.passed)
  let passing := results.countP CriterionResult.passed
  { connective := connective
    passed := passed
    reason := "Filter \"" ++ connective.name ++ "\" " ++ verdictWord passed ++ ": " ++
      toString passing ++ " of " ++ toString results.length ++ " criteria passed"
    results := results }

/-- The result of a filter whose `heavy` criteria were skipped, as some light one failed. -/
def ofLightFailure (results : List CriterionResult) (heavy : Nat) : FilterResult :=
  let failures := results.countP (!·.passed)
  { connective := .all
    passed := false
    reason := "Filter \"AND\" failed: " ++ toString failures ++ " of " ++
      toString results.length ++ " light criteria failed, " ++ toString heavy ++
      " heavy criteria skipped"
    results := results }

def ofNothing (connective : Connective) : FilterResult :=
  ⟨connective, true, "Filter passed: no criteria", []⟩

def toJson (result : FilterResult) : Json :=
  .object [("operator", .string result.connective.name), ("passed", .bool result.passed),
    ("reason", .string result.reason),
    ("results", .array (result.results.map CriterionResult.toJson))]

end FilterResult

namespace GroupResult

def ofResults (connective : Connective) (results : List FilterResult) : GroupResult :=
  let passed := connective.combine (results.map FilterResult.passed)
  let passing := results.countP FilterResult.passed
  { connective := connective
    passed := passed
    reason := "Filter group \"" ++ connective.name ++ "\" " ++ verdictWord passed ++ ": " ++
      toString passing ++ " of " ++ toString results.length ++ " filters passed"
    results := results }

/-- The result of a group of `total` filters that was left after the last of the results. -/
def ofFailure (results : List FilterResult) (total : Nat) : GroupResult where
  connective := .all
  passed := false
  reason := "Filter group \"AND\" failed at filter " ++ toString results.length ++ " of " ++
    toString total ++ ", " ++ toString (total - results.length) ++ " skipped"
  results := results

/-- The result of a group without criteria. -/
def ofNothing (connective : Connective) : GroupResult :=
  ⟨connective, true, "Filter group \"" ++ connective.name ++ "\" passed: no active filters", []⟩

def toJson (result : GroupResult) : Json :=
  .object [("operator", .string result.connective.name), ("passed", .bool result.passed),
    ("reason", .string result.reason),
    ("results", .array (result.results.map FilterResult.toJson))]

end GroupResult

namespace Outcome

def passed : Outcome → Bool
  | .criterion result => result.passed
  | .filter result => result.passed
  | .group result => result.passed

def reason : Outcome → String
  | .criterion result => result.reason
  | .filter result => result.reason
  | .group result => result.reason

def toJson : Outcome → Json
  | .criterion result => result.toJson
  | .filter result => result.toJson
  | .group result => result.toJson

end Outcome
end RecordFilter
