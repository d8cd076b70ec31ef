import RecordFilter.CommandLine.Run
import RecordFilter.Proofs.Engine.Session

/-!
# Stages of a run

A run that evaluates goes through several stages, each of which may end it: the settings are
loaded, criteria are loaded and saved, records and an expression are loaded, and the references
of the expression are resolved.

What a stage does is said by how it ends where certain criteria are saved.  Neither the settings
nor the workspace have any influence on that.  The main statement is that all stages come to a
good end exactly if the files hold what is needed.
-/

namespace RecordFilter

/-! ## Parts of a run -/

namespace RunM

variable {α β : Type}

/--
Where certain criteria are saved, the part of a run ends in this way and leaves others saved,
whatever the settings and the workspace are.
-/
def Ends (task : RunM α) (before : Registry Empty) (answer : Except Failure α)
    (after : Registry Empty) : Prop :=
  Engine.Does task.run before answer after

variable {task : RunM α} {next : α → RunM β} {before between after : Registry Empty}

theorem ends_pure (a : α) : Ends (pure a) before (.ok a) before :=
  Engine.does_pure (Except.ok a : Except Failure α)

theorem ends_throw (failure : Failure) :
    Ends (throw failure : RunM α) before (.error failure) before :=
  Engine.does_pure (Except.error failure : Except Failure α)

theorem ends_lift {task : EngineM Empty α} {a : α} (h : Engine.Does task before a after) :
    Ends (liftM task : RunM α) before (.ok a) after :=
  h.bind_pure Except.ok

theorem run_bind : (task >>= next).run = task.run >>= ExceptT.bindCont next :=
  rfl

theorem run_bind_of_ok {engine engine' : Engine Empty} {a : α}
    (h : task.run engine = (.ok a, engine')) :
    (task >>= next).run engine = (next a).run engine' := by
  rw [run_bind, bind_apply, h]
  rfl

theorem run_bind_of_error {engine engine' : Engine Empty} {failure : Failure}
    (h : task.run engine = (.error failure, engine')) :
    (task >>= next).run engine = (.error failure, engine') := by
  rw [run_bind, bind_apply, h]
  rfl

theorem Ends.bind {a : α} {answer : Except Failure β} (htask : Ends task before (.ok a) between)
    (hnext : Ends (next a) between answer after) : Ends (task >>= next) before answer after := by
  rw [Ends, run_bind]
  exact Engine.Does.bind htask hnext

theorem Ends.bind_error {failure : Failure} (htask : Ends task before (.error failure) between) :
    Ends (task >>= next) before (.error failure) between := by
  rw [Ends, run_bind]
  exact Engine.Does.bind htask (Engine.does_pure (Except.error failure))

theorem ends_require (failure : FilterError → Failure) (result : Except FilterError α)
    (before : Registry Empty) :
    Ends (require failure result) before (result.mapError failure) before := by
  cases result with
  | ok a => exact ends_pure a
  | error e => exact ends_throw (failure e)

/-! ## What is right -/

/--
Where certain criteria are saved, the part of a run ends in one way, and it succeeds exactly
with what is right.
-/
def Achieves (task : RunM α) (before : Registry Empty) (right : α → Registry Empty → Prop) :
    Prop :=
  ∃ answer after, Ends task before answer after ∧
    ∀ a registry, right a registry ↔ answer = .ok a ∧ after = registry

variable {right : α → Registry Empty → Prop}

theorem achieves_pure (a : α) :
    Achieves (pure a) before fun b registry => a = b ∧ before = registry := by
  refine ⟨.ok a, before, ends_pure a, ?_⟩
  intro b registry
  rw [Except.ok.injEq]

theorem achieves_throw (failure : Failure) :
    Achieves (throw failure : RunM α) before fun _ _ => False := by
  refine ⟨.error failure, before, ends_throw failure, ?_⟩
  intro a registry
  simp

theorem achieves_require (failure : FilterError → Failure) (result : Except FilterError α) :
    Achieves (require failure result) before
      fun a registry => result = .ok a ∧ before = registry := by
  refine ⟨result.mapError failure, before, ends_require failure result before, ?_⟩
  intro a registry
  cases result <;> simp [Except.mapError]

theorem achieves_lift {task : EngineM Empty α} {a : α} (h : Engine.Does task before a after) :
    Achieves (liftM task : RunM α) before fun b registry => a = b ∧ after = registry := by
  refine ⟨.ok a, after, ends_lift h, ?_⟩
  intro b registry
  rw [Except.ok.injEq]

theorem Achieves.bind {rightNext : α → Registry Empty → β → Registry Empty → Prop}
    (htask : Achieves task before right)
    (hnext : ∀ a between, right a between → Achieves (next a) between (rightNext a between)) :
    Achieves (task >>= next) before fun b registry =>
      ∃ a between, right a between ∧ rightNext a between b registry := by
  rcases htask with ⟨answer, between, hends, hright⟩
  cases answer with
  | error failure =>
      refine ⟨.error failure, between, hends.bind_error, ?_⟩
      intro b registry
      constructor
      · rintro ⟨a, other, ha, _⟩
        cases ((hright a other).mp ha).1
      · rintro ⟨h, _⟩
        cases h
  | ok a =>
      rcases hnext a between ((hright a between).mpr ⟨rfl, rfl⟩) with
        ⟨answer, after, hendsNext, hrightNext⟩
      refine ⟨answer, after, hends.bind hendsNext, ?_⟩
      intro b registry
      rw [← hrightNext]
      constructor
      · rintro ⟨c, other, hc, hb⟩
        rcases (hright c other).mp hc with ⟨hac, rfl⟩
        cases hac
        exact hb
      · intro hb
        exact ⟨a, between, (hright a between).mpr ⟨rfl, rfl⟩, hb⟩

theorem Achieves.congr {other : α → Registry Empty → Prop} (h : Achieves task before right)
    (hright : ∀ a registry, other a registry ↔ right a registry) :
    Achieves task before other := by
  rcases h with ⟨answer, after, hends, hexact⟩
  exact ⟨answer, after, hends, fun a registry => (hright a registry).trans (hexact a registry)⟩

end RunM

/-! ## What the files supply -/

namespace Arguments

section Loaded

variable (read : String → FileText) (arguments : Arguments)

def loadedSettings : Except FilterError Settings :=
  match arguments.config with
  | none => .ok .default
  | some name => (read name).settings

def loadedCriteria : Except FilterError (List (Criterion Empty)) :=
  match arguments.aliases with
  | none => .ok []
  | some name => (read name).aliases

def Saves (registry : Registry Empty) : Prop :=
  ∃ criteria, arguments.loadedCriteria read = .ok criteria ∧
    let saved := Engine.saveAll criteria (Engine.start .default)
    saved.1 = .ok () ∧ saved.2.registry = registry

/-- The files hold what is needed to filter. -/
structure Supplies (registry : Registry Empty) (records : List Value)
    (expression : Expression Empty) : Prop where
  saves : arguments.Saves read registry
  resolves : expression.Resolves registry
  records : ∃ name, arguments.records = some name ∧ (read name).records = .ok records
  expression : ∃ name, arguments.expression = some name ∧ (read name).expression = .ok expression

/-! ## Stages -/

def checkReferences (expression : Expression Empty) : RunM Unit := do
  let engine ← (get : EngineM Empty (Engine Empty))
  RunM.require (Failure.behind "Invalid expression") (engine.validate expression)

def loadInput : RunM (List Value × Expression Empty) := do
  match arguments.records, arguments.expression with
  | some recordsName, some expressionName =>
      let records ← RunM.load "records" recordsName (read recordsName).records
      let expression ← RunM.load "expression" expressionName (read expressionName).expression
      checkReferences expression
      return (records, expression)
  | _, _ => throw (.ofText "--records and --expression are required unless --inspect is given")

def prepare : RunM (List Value × Expression Empty) := do
  arguments.saveAliases read
  arguments.loadInput read

def answer (now : Instant) (input : List Value × Expression Empty) : RunM Printed :=
  if arguments.explain then explainFirst (environment now) input.1 input.2
  else arguments.printKept (environment now) input.1 input.2

theorem perform_eq (h : arguments.inspect = false) (now : Instant) :
    arguments.perform read now =
      (do
        arguments.startEngine read
        let input ← arguments.prepare read
        arguments.answer now input) := by
  unfold perform prepare loadInput answer checkReferences
  rw [h]
  cases arguments.records with
  | none => simp
  | some recordsName =>
      cases arguments.expression with
      | none => simp
      | some expressionName => simp

/-! ### Before the answer -/

theorem achieves_saveAll (criteria : List (Criterion Empty)) (before : Registry Empty) :
    RunM.Achieves (liftM (Engine.saveAll criteria)) before fun done registry =>
      let saved := Engine.saveAll criteria { Engine.start .default with registry := before }
      saved.1 = done ∧ saved.2.registry = registry :=
  RunM.achieves_lift (Engine.does_of_exists { Engine.start .default with registry := before }
    (Engine.exists_does_saveAll criteria before))

theorem achieves_log (text : String) (before : Registry Empty) :
    RunM.Achieves (liftM (Engine.work (Work.log .info text : Work Empty Unit))) before
      fun _ registry => before = registry := by
  rcases @Work.isSteady_record Empty (.log .info text) with ⟨_, _, hwrites⟩
  refine (RunM.achieves_lift (Engine.does_work hwrites)).congr fun _ registry => ?_
  simp

theorem achieves_saveAliases :
    RunM.Achieves (arguments.saveAliases read) [] fun _ registry =>
      arguments.Saves read registry := by
  unfold saveAliases Saves loadedCriteria
  cases arguments.aliases with
  | none =>
      refine (RunM.achieves_pure ()).congr ?_
      intro _ registry
      simp [Engine.saveAll, Engine.start, pure_apply]
  | some name =>
      refine RunM.Achieves.congr ((RunM.achieves_require _ _).bind fun criteria between _ =>
        (achieves_saveAll criteria between).bind fun done _ _ =>
          (RunM.achieves_require _ done).bind fun _ last _ => achieves_log _ last) ?_
      intro _ registry
      constructor
      · rintro ⟨criteria, hload, hdone, hregistry⟩
        exact ⟨criteria, [], ⟨hload, rfl⟩, .ok (), registry, ⟨hdone, hregistry⟩, (), registry,
          ⟨rfl, rfl⟩, rfl⟩
      · rintro ⟨criteria, _, ⟨hload, rfl⟩, done, _, ⟨hdone, hregistry⟩, _, _, ⟨hok, rfl⟩, rfl⟩
        exact ⟨criteria, hload, hdone.trans hok, hregistry⟩

theorem achieves_checkReferences (expression : Expression Empty) (before : Registry Empty) :
    RunM.Achieves (checkReferences expression) before fun _ registry =>
      expression.Resolves before ∧ before = registry := by
  let planned := (expression.plan before).map fun _ => ()
  have hrequire : RunM.Achieves (checkReferences expression) before fun done registry =>
      planned = .ok done ∧ before = registry :=
    RunM.achieves_require (Failure.behind "Invalid expression") planned
  have hplanned : expression.Resolves before ↔ planned = .ok () := by
    constructor
    · intro h
      rcases Expression.exists_plan h with ⟨plan, hplan, _⟩
      show (expression.plan before).map _ = _
      rw [hplan]
      rfl
    · intro h
      by_contra hunresolved
      rcases Expression.exists_first_unresolved hunresolved with ⟨_, _, _, e, _, _, _, hplan⟩
      have herror : planned = .error e := by
        show (expression.plan before).map _ = _
        rw [hplan]
        rfl
      rw [herror] at h
      cases h
  refine hrequire.congr fun _ registry => ?_
  rw [hplanned]

theorem achieves_loadInput (before : Registry Empty) :
    RunM.Achieves (arguments.loadInput read) before fun input registry =>
      (∃ name, arguments.records = some name ∧ (read name).records = .ok input.1) ∧
      (∃ name, arguments.expression = some name ∧ (read name).expression = .ok input.2) ∧
      input.2.Resolves before ∧ before = registry := by
  unfold loadInput
  cases arguments.records with
  | none =>
      refine (RunM.achieves_throw _).congr ?_
      simp
  | some recordsName =>
      cases arguments.expression with
      | none =>
          refine (RunM.achieves_throw _).congr ?_
          simp
      | some expressionName =>
          refine RunM.Achieves.congr ((RunM.achieves_require _ _).bind fun records _ _ =>
            (RunM.achieves_require _ _).bind fun expression _ _ =>
              (achieves_checkReferences expression _).bind fun _ _ _ =>
                RunM.achieves_pure (records, expression)) ?_
          intro input registry
          constructor
          · rintro ⟨⟨name, hname, hrecords⟩, ⟨other, hother, hexpression⟩, hresolves, hbefore⟩
            cases hname
            cases hother
            exact ⟨input.1, before, ⟨hrecords, rfl⟩, input.2, before, ⟨hexpression, rfl⟩, (),
              before, ⟨hresolves, rfl⟩, rfl, hbefore⟩
          · rintro ⟨records, _, ⟨hrecords, rfl⟩, expression, _, ⟨hexpression, rfl⟩, _, _,
              ⟨hresolves, rfl⟩, rfl, rfl⟩
            exact ⟨⟨recordsName, rfl, hrecords⟩, ⟨expressionName, rfl, hexpression⟩, hresolves, rfl⟩

theorem achieves_prepare :
    RunM.Achieves (arguments.prepare read) [] fun input registry =>
      arguments.Supplies read registry input.1 input.2 := by
  have hsave := arguments.achieves_saveAliases read
  refine (hsave.bind fun _ between _ => arguments.achieves_loadInput read between).congr ?_
  intro input registry
  constructor
  · intro h
    exact ⟨(), registry, h.saves, h.records, h.expression, h.resolves, rfl⟩
  · rintro ⟨_, between, hsaves, hrecords, hexpression, hresolves, rfl⟩
    exact ⟨hsaves, hresolves, hrecords, hexpression⟩

end Loaded

/-! ### What the stages depend on -/

section

variable {read : String → FileText} {arguments : Arguments}

theorem exists_run_startEngine (read : String → FileText) (arguments : Arguments) :
    ∃ failure : FilterError → Failure, ∀ engine,
      (arguments.startEngine read).run engine =
        match arguments.loadedSettings read with
        | .ok settings => (.ok (), Engine.start settings)
        | .error e => (.error (failure e), engine) := by
  unfold startEngine loadedSettings
  cases arguments.config with
  | none => exact ⟨Failure.ofError, fun _ => rfl⟩
  | some name =>
      refine ⟨Failure.behind ("Failed to load config from " ++ name), ?_⟩
      intro engine
      simp only
      cases (read name).settings with
      | ok settings => rfl
      | error e => rfl

theorem prepare_congr {other : String → FileText} (config : Option String)
    (concurrency : Option Nat)
    (hfiles : ∀ name, arguments.aliases = some name ∨ arguments.records = some name ∨
      arguments.expression = some name → other name = read name) :
    prepare other { arguments with config := config, concurrency := concurrency } =
      prepare read arguments := by
  unfold prepare saveAliases loadInput
  simp only
  congr 1
  · cases haliases : arguments.aliases with
    | none => rfl
    | some name =>
        simp only
        rw [hfiles name (.inl haliases)]
  · funext _
    cases hrecords : arguments.records with
    | none => rfl
    | some recordsName =>
        cases hexpression : arguments.expression with
        | none => rfl
        | some expressionName =>
            simp only
            rw [hfiles recordsName (.inr (.inl hrecords)),
              hfiles expressionName (.inr (.inr hexpression))]

end

end Arguments

end RecordFilter
