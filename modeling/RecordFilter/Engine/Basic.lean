import RecordFilter.Evaluation.Plan
import RecordFilter.Expression.Reader
import RecordFilter.Settings

/-!
# The engine

An engine has settings, saved criteria and a workspace.  It saves criteria under
their aliases and evaluates expressions on records.  Every reference of an
expression is resolved before anything is evaluated.
-/

namespace RecordFilter

structure Engine (Hook : Type) where
  settings : Settings
  registry : Registry Hook
  workspace : Workspace Hook

abbrev EngineM (Hook : Type) := StateM (Engine Hook)

namespace Engine

variable {Hook : Type}

def start (settings : Settings) : Engine Hook where
  settings := settings
  registry := []
  workspace :=
    { normalizer := if settings.cacheNormalizedText then .remembering else .forgetful
      journal := #[] }

/-- Do some work in the workspace of the engine. -/
def work (task : Work Hook α) : EngineM Hook α := fun engine =>
  let (answer, workspace) := task engine.workspace
  (answer, { engine with workspace := workspace })

/-! ## Saved criteria -/

def save (criterion : Criterion Hook) : EngineM Hook (Except FilterError Unit) := do
  let engine ← get
  match engine.registry.save criterion with
  | .error e => return .error e
  | .ok registry =>
      let aliasName := criterion.aliasName.getD ""
      let done := if Keyed.contains aliasName engine.registry then "Replaced saved" else "Saved"
      set { engine with registry := registry }
      work (Work.log .info (done ++ " criterion '" ++ aliasName ++ "'"))
      return .ok ()

/-- Save criteria one after another, up to the first one that cannot be saved. -/
def saveAll : List (Criterion Hook) → EngineM Hook (Except FilterError Unit)
  | [] => return .ok ()
  | criterion :: rest => do
      match (← save criterion) with
      | .error e => return .error e
      | .ok () => saveAll rest

/-- Forget a saved criterion; tells whether there was one. -/
def remove (aliasName : String) : EngineM Hook Bool := do
  let engine ← get
  set { engine with registry := Keyed.erase aliasName engine.registry }
  return Keyed.contains aliasName engine.registry

def clear : EngineM Hook Unit :=
  modify fun engine => { engine with registry := [] }

/-! ## Evaluation -/

def plan (engine : Engine Hook) (expression : Expression Hook) :
    Except FilterError (Plan Hook) :=
  expression.plan engine.registry

def validate (engine : Engine Hook) (expression : Expression Hook) : Except FilterError Unit :=
  (engine.plan expression).map fun _ => ()

def evaluate (env : Environment Hook) (record : Value) (expression : Expression Hook) :
    EngineM Hook (Except FilterError Outcome) := do
  match (← get).plan expression with
  | .error e => return .error e
  | .ok plan => return .ok (← work (plan.evaluate env record))

/-- Evaluate the expression that a document describes, without a context. -/
def evaluateJson (env : Environment Hook) (record : Value) (json : Json) :
    EngineM Hook (Except FilterError Outcome) := do
  match Expression.ofJson json with
  | .error e => return .error e
  | .ok expression => evaluate { env with context := .undefined } record expression

def normalizeText (text : String) : EngineM Hook String := fun engine =>
  let (folded, normalizer) := Normalizer.text text engine.workspace.normalizer
  (folded, { engine with workspace := { engine.workspace with normalizer := normalizer } })

def clearCache : EngineM Hook Unit :=
  modify fun engine =>
    let normalizer := engine.workspace.normalizer.clear
    { engine with workspace := { engine.workspace with normalizer := normalizer } }

def cachedTexts (engine : Engine Hook) : Nat :=
  engine.workspace.normalizer.size

end Engine
end RecordFilter
