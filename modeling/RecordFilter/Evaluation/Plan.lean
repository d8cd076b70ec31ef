import RecordFilter.Evaluation.Criterion

/-!
# Evaluating filters and groups

Before anything is evaluated an expression becomes a plan, in which every reference
is replaced by the criterion that it stands for.

A filter that needs all its criteria evaluates the light ones first, and the heavy
ones only if no light one failed.  A group that needs all its filters stops at the
first one that fails.  Everything else is evaluated in full.  Filters without
criteria are left out of a group.

Which criteria are evaluated, and in which order, does not depend on how a single
one is evaluated, so that is a parameter of filters and groups.
-/

namespace RecordFilter

structure FilterPlan (Hook : Type) where
  connective : Connective
  criteria : List (Criterion Hook)

structure GroupPlan (Hook : Type) where
  connective : Connective
  filters : List (FilterPlan Hook)

/-- A group without references, and the level of the expression it was made from. -/
structure Plan (Hook : Type) where
  group : GroupPlan Hook
  level : Level

/-- A way to evaluate single criteria. -/
abbrev Visit (Hook : Type) := Criterion Hook → Work Hook CriterionResult

variable {Hook : Type}

/-! ## Planning -/

def Registry.plan (registry : Registry Hook) : Node Hook → Except FilterError (Criterion Hook)
  | .criterion criterion => .ok criterion
  | .reference reference => registry.resolve reference

def Filter.plan (registry : Registry Hook) (filter : Filter Hook) :
    Except FilterError (FilterPlan Hook) := do
  return ⟨filter.connective, ← filter.nodes.mapM registry.plan⟩

def FilterGroup.plan (registry : Registry Hook) (group : FilterGroup Hook) :
    Except FilterError (GroupPlan Hook) := do
  return ⟨group.connective, ← group.filters.mapM (Filter.plan registry)⟩

/-- Replace all references; the first one that cannot be resolved is an error. -/
def Expression.plan (registry : Registry Hook) (expression : Expression Hook) :
    Except FilterError (Plan Hook) := do
  return ⟨← expression.toGroup.plan registry, expression.level⟩

/-! ## Filters -/

namespace FilterPlan

/-- Put the results of light and heavy criteria into the order of the criteria. -/
def inOrder : List (Criterion Hook) → List CriterionResult → List CriterionResult →
    List CriterionResult
  | [], _, _ => []
  | criterion :: rest, light, heavy =>
      if criterion.heavy then
        match heavy with
        | result :: heavy => result :: inOrder rest light heavy
        | [] => inOrder rest light []
      else
        match light with
        | result :: light => result :: inOrder rest light heavy
        | [] => inOrder rest [] heavy

/-- Evaluate the light criteria and, unless one fails, the heavy ones. -/
def evaluateLightFirst (visit : Visit Hook) (plan : FilterPlan Hook) : Work Hook FilterResult := do
  let light := plan.criteria.filter (!·.heavy)
  let heavy := plan.criteria.filter (·.heavy)
  let lightResults ← light.mapM visit
  let failures := lightResults.countP (!·.passed)
  if failures = 0 then
    let heavyResults ← heavy.mapM visit
    return .ofResults plan.connective (inOrder plan.criteria lightResults heavyResults)
  else
    Work.log .debug ("Skipping " ++ toString heavy.length ++ " heavy criteria after " ++
      toString failures ++ " light failure(s)")
    return .ofLightFailure lightResults heavy.length

/-- Whether heavy criteria may have to wait for light ones. -/
def isMixed (plan : FilterPlan Hook) : Bool :=
  plan.criteria.any (·.heavy) && plan.criteria.any (!·.heavy)

def evaluate (visit : Visit Hook) (plan : FilterPlan Hook) : Work Hook FilterResult := do
  if plan.connective = .all ∧ plan.isMixed then
    plan.evaluateLightFirst visit
  else
    return .ofResults plan.connective (← plan.criteria.mapM visit)

end FilterPlan

/-! ## Groups -/

namespace GroupPlan

/-- The filters that have criteria. -/
def active (plan : GroupPlan Hook) : List (FilterPlan Hook) :=
  plan.filters.filter (!·.criteria.isEmpty)

def evaluateUntilFailure (visit : Visit Hook) :
    List (FilterPlan Hook) → Work Hook (List FilterResult)
  | [] => return []
  | plan :: rest => do
      let result ← plan.evaluate visit
      if result.passed then return result :: (← evaluateUntilFailure visit rest)
      else return [result]

def evaluateAll (visit : Visit Hook) (filters : List (FilterPlan Hook)) :
    Work Hook GroupResult := do
  let results ← evaluateUntilFailure visit filters
  if results.all (·.passed) then return .ofResults .all results
  else
    if results.length < filters.length then
      Work.log .debug ("Filter group short-circuited at filter " ++ toString results.length ++
        " of " ++ toString filters.length)
    return .ofFailure results filters.length

def evaluateBy (visit : Visit Hook) (plan : GroupPlan Hook) : Work Hook GroupResult := do
  if plan.active.isEmpty then return .ofNothing plan.connective
  else
    match plan.connective with
    | .all => evaluateAll visit plan.active
    | .any => return .ofResults .any (← plan.active.mapM (·.evaluate visit))

def evaluate (env : Environment Hook) (record : Value) (plan : GroupPlan Hook) :
    Work Hook GroupResult :=
  plan.evaluateBy fun criterion => criterion.evaluate env record

end GroupPlan

/-! ## Expressions -/

namespace Plan

/-- The part of the result of the group that is the result of the expression. -/
def outcome (plan : Plan Hook) (result : GroupResult) : Outcome :=
  match plan.level with
  | .group => .group result
  | .filter =>
      match result.results.getLast? with
      | some filter => .filter filter
      | none => .filter (.ofNothing ((plan.group.filters.head?.map (·.connective)).getD .all))
  | .criterion =>
      match result.results.getLast?.bind fun filter => filter.results.getLast? with
      | some criterion => .criterion criterion
      | none => .group result

def evaluate (env : Environment Hook) (record : Value) (plan : Plan Hook) : Work Hook Outcome := do
  return plan.outcome (← plan.group.evaluate env record)

end Plan
end RecordFilter
