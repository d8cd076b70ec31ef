import RecordFilter.Engine.Basic

/-!
# Filtering collections

A collection is filtered by one expression, or split by several named ones in one
pass.  What is kept stays in the order of the collection.  An expression without
criteria keeps everything.

No context is handed to the functions of the caller.  A limit on how many records are
evaluated at once has no influence on the answer.
-/

namespace RecordFilter

namespace Engine

variable {Hook : Type}

/-- The limit in force; a limit of zero is none. -/
def limit (engine : Engine Hook) (concurrency : Option Nat) : Option Nat :=
  (concurrency.or engine.settings.concurrency).filter (0 < ·)

/-- Whether a record passes a plan; everything passes where there is none. -/
def verdict (env : Environment Hook) (record : Value) :
    Option (GroupPlan Hook) → Work Hook Bool
  | none => return true
  | some plan => return (← plan.evaluate env record).passed

def verdicts (env : Environment Hook) (records : List Value)
    (plans : List (Option (GroupPlan Hook))) (limit : Option Nat) :
    Work Hook (List (List Bool)) := do
  let limitText :=
    match limit with
    | some limit => "Some(" ++ toString limit ++ ")"
    | none => "None"
  Work.log .trace ("Filtering " ++ toString records.length ++ " records against " ++
    toString plans.length ++ " expression(s), limit " ++ limitText)
  records.mapM fun record => plans.mapM (verdict { env with context := .undefined } record)

/-- The records that have a positive verdict at a position. -/
def keptAt (position : Nat) (records : List Value) (passed : List (List Bool)) : List Value :=
  (records.zip passed).filterMap fun (record, verdicts) =>
    if verdicts[position]?.getD false then some record else none

def activePlan (engine : Engine Hook) (expression : Expression Hook) :
    Except FilterError (Option (GroupPlan Hook)) :=
  if expression.isEmpty then .ok none
  else (engine.plan expression).map fun plan => some plan.group

def filterRecords (env : Environment Hook) (records : List Value) (expression : Expression Hook)
    (concurrency : Option Nat) : EngineM Hook (Except FilterError (List Value)) := do
  let engine ← get
  match engine.activePlan expression with
  | .error e => return .error e
  | .ok none => return .ok records
  | .ok (some plan) =>
      let passed ← work (verdicts env records [some plan] (engine.limit concurrency))
      return .ok (keptAt 0 records passed)

/-- Split records by named expressions. -/
def partition (env : Environment Hook) (records : List Value)
    (expressions : Keyed (Expression Hook)) (concurrency : Option Nat) :
    EngineM Hook (Except FilterError (Keyed (List Value))) := do
  let engine ← get
  match expressions.mapM fun named => engine.activePlan named.2 with
  | .error e => return .error e
  | .ok plans =>
      let passed ← work (verdicts env records plans (engine.limit concurrency))
      return .ok ((Keyed.keys expressions).zipIdx.map fun (name, position) =>
        (name, keptAt position records passed))

end Engine
end RecordFilter
