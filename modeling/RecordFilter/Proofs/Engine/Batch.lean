import RecordFilter.Proofs.Engine.References

/-!
# Collections and single records

Filtering a collection plans once and evaluates the plan on every record, one after another
in one workspace.  Neither the other records nor the other expressions of a partition have
any influence on a verdict, so each record is kept or dropped as the evaluation on it
alone says.

The main statement compares the answer for a collection with the evaluation on each
record, and a partition with filtering by each of its expressions.
-/

namespace RecordFilter

variable {Hook : Type}

/-! ## Verdicts -/

theorem Work.mapM_fst {α β : Type} {task : α → Work Hook β} {answer : α → β}
    (h : ∀ x w, (task x w).1 = answer x) (xs : List α) (w : Workspace Hook) :
    (xs.mapM task w).1 = xs.map answer := by
  induction xs generalizing w with
  | nil => rfl
  | cons x rest ih =>
      rw [List.mapM_cons, bind_apply, bind_apply, pure_apply, ih, h, List.map_cons]

namespace Engine

/-- The verdict on a record, by evaluations of the criteria on their own. -/
def keeps (env : Environment Hook) (alone : Workspace Hook) (plan : Option (GroupPlan Hook))
    (record : Value) : Bool :=
  plan.all fun plan =>
    plan.holds fun c => (c.evaluate { env with context := .undefined } record alone).1.passed

variable (env : Environment Hook) (records : List Value) (concurrency : Option Nat)
  (engine : Engine Hook)

theorem verdict_fst (alone : Workspace Hook) (record : Value) (plan : Option (GroupPlan Hook))
    (w : Workspace Hook) :
    (verdict { env with context := .undefined } record plan w).1 = keeps env alone plan record := by
  cases plan with
  | none => rfl
  | some plan =>
      rw [verdict, bind_apply, pure_apply, plan.evaluate_fst _ record alone]
      exact plan.report_passed _

theorem verdicts_fst (alone : Workspace Hook) (plans : List (Option (GroupPlan Hook)))
    (limit : Option Nat) (w : Workspace Hook) :
    (verdicts env records plans limit w).1 =
      records.map fun record => plans.map fun plan => keeps env alone plan record := by
  refine Work.mapM_fst (fun record w => ?_) records _
  exact Work.mapM_fst (fun plan w => verdict_fst env alone record plan w) plans w

theorem keptAt_map (position : Nat) (f : Value → List Bool) :
    keptAt position records (records.map f) =
      records.filter fun record => (f record)[position]?.getD false := by
  unfold keptAt
  induction records with
  | nil => rfl
  | cons record rest ih =>
      rw [List.map_cons, List.zip_cons_cons, List.filterMap_cons, List.filter_cons, ih]
      cases hpassed : (f record)[position]?.getD false <;> simp [hpassed]

/-! ## Answers -/

theorem filterRecords_fst (alone : Workspace Hook) (expression : Expression Hook) :
    (filterRecords env records expression concurrency engine).1 =
      (engine.activePlan expression).map fun plan => records.filter (keeps env alone plan) := by
  rw [filterRecords, bind_apply, get_apply]
  cases engine.activePlan expression with
  | error e => rfl
  | ok plan =>
      cases plan with
      | none => exact congrArg Except.ok (List.filter_eq_self.mpr fun _ _ => rfl).symm
      | some plan =>
          have hpassed := verdicts_fst env records alone [some plan] (engine.limit concurrency)
            engine.workspace
          refine congrArg Except.ok ?_
          show keptAt 0 records (verdicts env records [some plan] _ engine.workspace).1 = _
          rw [hpassed, keptAt_map]
          rfl

theorem map_zipIdx_getElem? {α β γ : Type} (g : α → Option β → γ) {xs : List α} {ys : List β}
    (hlength : xs.length = ys.length) :
    (xs.zipIdx.map fun entry => g entry.1 ys[entry.2]?) =
      List.zipWith (fun x y => g x (some y)) xs ys := by
  apply List.ext_getElem
  · simp [hlength]
  · intro position hx hy
    have hbound : position < ys.length := by simpa [hlength] using hx
    simp [List.getElem?_eq_getElem hbound]

theorem partition_fst (alone : Workspace Hook) (named : Keyed (Expression Hook)) :
    (partition env records named concurrency engine).1 =
      named.mapM fun entry => (engine.activePlan entry.2).map fun plan =>
        (entry.1, records.filter (keeps env alone plan)) := by
  have hmap := mapM_map_right (fun entry : String × Expression Hook => engine.activePlan entry.2)
    (fun entry plan => (entry.1, records.filter (keeps env alone plan))) named
  rw [hmap, partition, bind_apply, get_apply]
  simp only
  cases hplans : named.mapM fun entry => engine.activePlan entry.2 with
  | error e => rfl
  | ok plans =>
      have hpassed := verdicts_fst env records alone plans (engine.limit concurrency)
        engine.workspace
      have hlength : (Keyed.keys named).length = plans.length := by
        rw [Keyed.keys, List.length_map]
        exact length_of_mapM_eq_ok hplans
      refine congrArg Except.ok ?_
      show (Keyed.keys named).zipIdx.map (fun entry => (entry.1, keptAt entry.2 records
        (verdicts env records plans (engine.limit concurrency) engine.workspace).1)) = _
      rw [hpassed]
      simp only [keptAt_map, List.getElem?_map]
      rw [map_zipIdx_getElem? (fun name plan => (name, records.filter fun record =>
        (plan.map fun plan => keeps env alone plan record).getD false)) hlength, Keyed.keys,
        List.zipWith_map_left]
      rfl

end Engine

/-! ## Empty expressions and plans -/

theorem Expression.holds_toGroup (registry : Registry Hook) (verdict : Criterion Hook → Bool)
    (expression : Expression Hook) :
    expression.toGroup.holds registry verdict = expression.holds registry verdict := by
  cases expression with
  | node n =>
      simp [toGroup, Expression.holds, FilterGroup.holds, FilterGroup.active, Filter.holds,
        Connective.combine]
  | filter f =>
      cases hempty : f.nodes.isEmpty <;>
        simp [toGroup, Expression.holds, FilterGroup.holds, FilterGroup.active, Connective.combine,
          hempty]
  | group g => rfl

theorem Expression.holds_of_isEmpty {expression : Expression Hook}
    (h : expression.isEmpty = true) (registry : Registry Hook) (verdict : Criterion Hook → Bool) :
    expression.holds registry verdict = true := by
  rw [isEmpty_iff, ← nodes_toGroup, List.flatMap_eq_nil_iff] at h
  have hactive : expression.toGroup.active = [] := by
    rw [FilterGroup.active, List.filter_eq_nil_iff]
    intro filter hfilter
    simp [h filter hfilter]
  rw [← holds_toGroup, FilterGroup.holds, hactive]
  rfl

namespace Engine

/-- Where the references can be resolved, what is evaluated on each record has the meaning of
the expression. -/
theorem exists_activePlan {engine : Engine Hook} {expression : Expression Hook}
    (h : expression.Resolves engine.registry) :
    ∃ plan, engine.activePlan expression = .ok plan ∧ ∀ verdict,
      plan.all (·.holds verdict) = expression.holds engine.registry verdict := by
  cases hempty : expression.isEmpty with
  | true =>
      refine ⟨none, ?_, fun verdict => ?_⟩
      · rw [activePlan, hempty]
        rfl
      · exact (Expression.holds_of_isEmpty hempty _ verdict).symm
  | false =>
      rcases Expression.exists_plan h with ⟨plan, hplan, hgroup⟩
      refine ⟨some plan, ?_, fun verdict => ?_⟩
      · rw [activePlan, hempty, Engine.plan, hplan]
        rfl
      · exact (hgroup.holds verdict).trans (Expression.holds_toGroup _ verdict expression)

/-! ## Agreement -/

/-- The answer for a collection that the evaluations on single records, in any workspace,
demand. -/
inductive Selects (env : Environment Hook) (engine : Engine Hook) (expression : Expression Hook)
    (records : List Value) : Except FilterError (List Value) → Prop where
  | fails {e : FilterError}
      (each : ∀ record workspace,
        (evaluate env record expression { engine with workspace := workspace }).1 = .error e) :
      Selects env engine expression records (.error e)
  | keeps {passes : Value → Bool}
      (each : ∀ record workspace, ∃ outcome,
        (evaluate env record expression { engine with workspace := workspace }).1 = .ok outcome ∧
          outcome.passed = passes record) :
      Selects env engine expression records (.ok (records.filter passes))

theorem filterRecords_of_isEmpty (env : Environment Hook) (records : List Value)
    (concurrency : Option Nat) (engine : Engine Hook) {expression : Expression Hook}
    (h : expression.isEmpty = true) :
    filterRecords env records expression concurrency engine = (.ok records, engine) := by
  have hactive : engine.activePlan expression = .ok none := by
    rw [activePlan, h]
    rfl
  rw [filterRecords, bind_apply, get_apply]
  simp only [hactive]
  rfl

theorem selects_of_resolves (env : Environment Hook) (records : List Value)
    (concurrency : Option Nat) {engine : Engine Hook} {expression : Expression Hook}
    (h : expression.Resolves engine.registry) :
    engine.Selects { env with context := .undefined } expression records
      (filterRecords env records expression concurrency engine).1 := by
  have alone := engine.workspace
  rcases exists_activePlan h with ⟨active, hactive, hholds⟩
  rcases Expression.exists_plan h with ⟨plan, hplan, hgroup⟩
  rw [filterRecords_fst env records concurrency engine alone, hactive]
  refine .keeps fun record workspace => ?_
  have hevaluate := @evaluate_of_plan Hook { env with context := .undefined } record expression
    { engine with workspace := workspace } _ hplan
  rw [plan.evaluate_fst _ record alone] at hevaluate
  refine ⟨_, hevaluate, ?_⟩
  rw [(Expression.outcome_of_isPlan hgroup _).2, ← hholds]
  rfl

theorem selects_of_not_resolves (env : Environment Hook) (records : List Value)
    (concurrency : Option Nat) {engine : Engine Hook} {expression : Expression Hook}
    (h : ¬ expression.Resolves engine.registry) :
    engine.Selects { env with context := .undefined } expression records
      (filterRecords env records expression concurrency engine).1 := by
  rcases Expression.exists_first_unresolved h with ⟨_, _, _, e, _, _, _, hplan⟩
  have hrefuses : ∀ workspace, Refuses { engine with workspace := workspace } expression e := by
    intro workspace
    exact refuses_of_plan hplan
  rw [(hrefuses engine.workspace).filtering env records concurrency]
  refine .fails fun record workspace => ?_
  rw [(hrefuses workspace).evaluation]

end Engine

/--
Filtering a collection answers as the evaluation on each of its records demands: with the same
error, or with the records that pass.  An expression without criteria keeps all of them.  A
partition answers as filtering by each of its expressions in turn, up to the first error,
whatever the limits and the workspaces.
-/
theorem collections_agree (env : Environment Hook) (records : List Value)
    (concurrency : Option Nat) (engine : Engine Hook) :
    (∀ expression : Expression Hook,
      let kept := (Engine.filterRecords env records expression concurrency engine).1
      engine.Selects { env with context := .undefined } expression records kept ∧
        (expression.isEmpty = true → kept = .ok records)) ∧
    ∀ (named : Keyed (Expression Hook)) (limit : Option Nat) (workspace : Workspace Hook),
      let fresh := { engine with workspace := workspace }
      (Engine.partition env records named concurrency engine).1 =
        named.mapM fun entry =>
          (Engine.filterRecords env records entry.2 limit fresh).1.map (entry.1, ·) := by
  constructor
  · intro expression kept
    constructor
    · by_cases h : expression.Resolves engine.registry
      · exact Engine.selects_of_resolves env records concurrency h
      · exact Engine.selects_of_not_resolves env records concurrency h
    · intro hempty
      exact congrArg Prod.fst
        (Engine.filterRecords_of_isEmpty env records concurrency engine hempty)
  · intro named limit workspace fresh
    rw [Engine.partition_fst env records concurrency engine workspace]
    refine congrArg (fun f => named.mapM f) (funext fun entry => ?_)
    rw [Engine.filterRecords_fst env records limit fresh workspace]
    show (engine.activePlan entry.2).map _ = ((engine.activePlan entry.2).map _).map _
    cases engine.activePlan entry.2 with
    | error e => rfl
    | ok plan => rfl

theorem collections_agree_of_empty_and_unsaved :
    let engine : Engine Empty := ⟨.default, [], ⟨.forgetful, #[]⟩⟩
    let env : Environment Empty := ⟨⟨nofun, nofun, nofun, nofun⟩, ⟨0, 0⟩, .undefined⟩
    let records : List Value := [.null, .boolean true, .null]
    let nothing : Expression Empty := .filter ⟨.any, []⟩
    let unsaved : Expression Empty := .node (.reference (.ofAlias "tall"))
    nothing.isEmpty = true ∧
      (Engine.filterRecords env records nothing none engine).1 = .ok records ∧
      (Engine.partition env records [("all", nothing)] none engine).1 = .ok [("all", records)] ∧
      (Engine.partition env records [("all", nothing), ("tall", unsaved)] (some 2) engine).1 =
        .error (.aliasNotFound "tall") := by
  intro engine env records nothing unsaved
  have hempty : nothing.isEmpty = true := rfl
  have hagree := fun concurrency => collections_agree env records concurrency engine
  refine ⟨hempty, ((hagree none).1 nothing).2 hempty, ?_, ?_⟩
  · rw [(hagree none).2 _ none engine.workspace]
    rfl
  · rw [(hagree (some 2)).2 _ none engine.workspace]
    rfl

end RecordFilter
