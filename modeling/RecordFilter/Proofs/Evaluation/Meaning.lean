import Mathlib.Data.List.Forall2
import RecordFilter.Engine.Basic
import RecordFilter.Proofs.Evaluation.Listing
import RecordFilter.Proofs.Traversal

/-!
# The meaning of expressions

The meaning of an expression is read off its text: a filter joins the verdicts of all
its members, and a group joins those of its filters, where filters without members do
not count and nothing at all holds.  No member is left out and none waits.

The main statement is that the evaluation of an expression whose references can be
resolved gives an outcome of the same level with the verdict that the expression
means.
-/

namespace RecordFilter

variable {Hook : Type}

/-! ## Meanings -/

section Meaning

variable (registry : Registry Hook) (verdict : Criterion Hook → Bool)

def Node.holds (node : Node Hook) : Bool :=
  (registry.plan node).toOption.any verdict

def Filter.holds (filter : Filter Hook) : Bool :=
  filter.connective.combine (filter.nodes.map (Node.holds registry verdict))

def FilterGroup.active (group : FilterGroup Hook) : List (Filter Hook) :=
  group.filters.filter (!·.nodes.isEmpty)

def FilterGroup.holds (group : FilterGroup Hook) : Bool :=
  group.active.isEmpty ||
    group.connective.combine (group.active.map (Filter.holds registry verdict))

def Expression.holds : Expression Hook → Bool
  | .node n => n.holds registry verdict
  | .filter f => f.nodes.isEmpty || f.holds registry verdict
  | .group g => g.holds registry verdict

end Meaning

def Expression.nodes : Expression Hook → List (Node Hook)
  | .node n => [n]
  | .filter f => f.nodes
  | .group g => g.filters.flatMap Filter.nodes

/-- Every reference in the expression stands for a criterion. -/
def Expression.Resolves (registry : Registry Hook) (expression : Expression Hook) : Prop :=
  ∀ reference, Node.reference reference ∈ expression.nodes →
    ∃ criterion, registry.resolve reference = .ok criterion

def Outcome.level : Outcome → Level
  | .criterion _ => .criterion
  | .filter _ => .filter
  | .group _ => .group

/-! ## Plans -/

def Registry.Matches (registry : Registry Hook) :
    List (Node Hook) → List (Criterion Hook) → Prop :=
  List.Forall₂ fun node criterion => registry.plan node = .ok criterion

theorem Registry.Matches.map_holds {registry : Registry Hook} {nodes : List (Node Hook)}
    {criteria : List (Criterion Hook)} (h : registry.Matches nodes criteria)
    (verdict : Criterion Hook → Bool) :
    nodes.map (Node.holds registry verdict) = criteria.map verdict := by
  induction h with
  | nil => rfl
  | cons hnode _ ih =>
      rw [List.map_cons, List.map_cons, ih, Node.holds, hnode]
      rfl

theorem Registry.Matches.isEmpty {registry : Registry Hook} {nodes : List (Node Hook)}
    {criteria : List (Criterion Hook)} (h : registry.Matches nodes criteria) :
    nodes.isEmpty = criteria.isEmpty := by
  cases h <;> rfl

structure Filter.IsPlan (registry : Registry Hook) (filter : Filter Hook)
    (plan : FilterPlan Hook) : Prop where
  connective : plan.connective = filter.connective
  criteria : registry.Matches filter.nodes plan.criteria

theorem Filter.IsPlan.holds {registry : Registry Hook} {filter : Filter Hook}
    {plan : FilterPlan Hook} (h : filter.IsPlan registry plan)
    (verdict : Criterion Hook → Bool) :
    plan.holds verdict = filter.holds registry verdict := by
  rw [FilterPlan.holds, Filter.holds, h.connective, h.criteria.map_holds verdict]

theorem Filter.exists_plan {registry : Registry Hook} {filter : Filter Hook}
    (h : ∀ node ∈ filter.nodes, ∃ criterion, registry.plan node = .ok criterion) :
    ∃ plan, filter.plan registry = .ok plan ∧ filter.IsPlan registry plan := by
  have hnodes : ∀ node ∈ filter.nodes, ∃ criterion, registry.plan node = .ok criterion ∧
      registry.plan node = .ok criterion := by
    intro node hnode
    rcases h node hnode with ⟨criterion, hcriterion⟩
    exact ⟨criterion, hcriterion, hcriterion⟩
  rcases exists_mapM_eq_ok hnodes with ⟨criteria, hcriteria, hmatches⟩
  refine ⟨⟨filter.connective, criteria⟩, ?_, rfl, hmatches⟩
  rw [Filter.plan, hcriteria]
  rfl

structure FilterGroup.IsPlan (registry : Registry Hook) (group : FilterGroup Hook)
    (plan : GroupPlan Hook) : Prop where
  connective : plan.connective = group.connective
  filters : List.Forall₂ (Filter.IsPlan registry) group.filters plan.filters

theorem FilterGroup.IsPlan.map_active {registry : Registry Hook} {group : FilterGroup Hook}
    {plan : GroupPlan Hook} (h : group.IsPlan registry plan) (verdict : Criterion Hook → Bool) :
    plan.active.map (·.holds verdict) = group.active.map (Filter.holds registry verdict) := by
  unfold FilterGroup.active GroupPlan.active
  have hfilters := h.filters
  generalize group.filters = filters at hfilters
  generalize plan.filters = plans at hfilters
  induction hfilters with
  | nil => rfl
  | cons hfilter _ ih =>
      rw [List.filter_cons, List.filter_cons, hfilter.criteria.isEmpty]
      split
      · rw [List.map_cons, List.map_cons, ih, hfilter.holds]
      · exact ih

theorem FilterGroup.IsPlan.holds {registry : Registry Hook} {group : FilterGroup Hook}
    {plan : GroupPlan Hook} (h : group.IsPlan registry plan) (verdict : Criterion Hook → Bool) :
    plan.holds verdict = group.holds registry verdict := by
  have hactive := h.map_active verdict
  have hempty : plan.active.isEmpty = group.active.isEmpty := by
    simpa using congrArg List.isEmpty hactive
  rw [GroupPlan.holds, FilterGroup.holds, h.connective, hactive, hempty]

theorem FilterGroup.exists_plan {registry : Registry Hook} {group : FilterGroup Hook}
    (h : ∀ filter ∈ group.filters, ∀ node ∈ filter.nodes,
      ∃ criterion, registry.plan node = .ok criterion) :
    ∃ plan, group.plan registry = .ok plan ∧ group.IsPlan registry plan := by
  obtain ⟨plans, hplans, hfilters⟩ := exists_mapM_eq_ok fun filter hfilter =>
    Filter.exists_plan (h filter hfilter)
  refine ⟨⟨group.connective, plans⟩, ?_, rfl, hfilters⟩
  rw [FilterGroup.plan, hplans]
  rfl

theorem Expression.mem_nodes_of_toGroup {expression : Expression Hook} {filter : Filter Hook}
    {node : Node Hook} (hfilter : filter ∈ expression.toGroup.filters)
    (hnode : node ∈ filter.nodes) : node ∈ expression.nodes := by
  cases expression with
  | node n =>
      rw [List.mem_singleton.mp hfilter] at hnode
      exact hnode
  | filter f =>
      rw [List.mem_singleton.mp hfilter] at hnode
      exact hnode
  | group g => exact List.mem_flatMap.mpr ⟨filter, hfilter, hnode⟩

theorem Expression.resolves_iff {registry : Registry Hook} {expression : Expression Hook} :
    expression.Resolves registry ↔
      ∀ node ∈ expression.nodes, ∃ criterion, registry.plan node = .ok criterion := by
  constructor
  · intro h node hnode
    cases node with
    | criterion criterion => exact ⟨criterion, rfl⟩
    | reference reference => exact h reference hnode
  · intro h reference hreference
    exact h (.reference reference) hreference

theorem Expression.exists_plan {registry : Registry Hook} {expression : Expression Hook}
    (h : expression.Resolves registry) :
    ∃ plan, expression.plan registry = .ok ⟨plan, expression.level⟩ ∧
      expression.toGroup.IsPlan registry plan := by
  have hnodes : ∀ filter ∈ expression.toGroup.filters, ∀ node ∈ filter.nodes,
      ∃ criterion, registry.plan node = .ok criterion := by
    intro filter hfilter node hnode
    exact resolves_iff.mp h node (mem_nodes_of_toGroup hfilter hnode)
  rcases FilterGroup.exists_plan hnodes with ⟨plan, hplan, hgroup⟩
  refine ⟨plan, ?_, hgroup⟩
  rw [Expression.plan, hplan]
  rfl

/-! ## Single filters and single criteria -/

theorem exists_eq_singleton {α β : Type} {P : α → β → Prop} {x : α} {ys : List β}
    (h : List.Forall₂ P [x] ys) : ∃ y, P x y ∧ ys = [y] := by
  rcases List.forall₂_cons_left_iff.mp h with ⟨y, rest, hy, hrest, hys⟩
  rw [List.forall₂_nil_left_iff.mp hrest] at hys
  exact ⟨y, hy, hys⟩

theorem upToFailure_singleton {α : Type} (p : α → Bool) (x : α) : upToFailure p [x] = [x] := by
  rw [upToFailure_cons]
  split <;> rfl

namespace GroupPlan

variable {plan : GroupPlan Hook} {only : FilterPlan Hook}

theorem active_of_single (hfilters : plan.filters = [only]) :
    plan.active = if only.criteria.isEmpty then [] else [only] := by
  rw [active, hfilters]
  cases hempty : only.criteria.isEmpty <;> simp [hempty]

theorem listed_of_single (hfilters : plan.filters = [only]) (verdict : Criterion Hook → Bool) :
    plan.listed verdict = if only.criteria.isEmpty then [] else [only] := by
  have hactive := active_of_single hfilters
  cases hempty : only.criteria.isEmpty with
  | true =>
      rw [hempty] at hactive
      exact (plan.listed_eq_nil_iff verdict).mpr hactive
  | false =>
      rw [hempty] at hactive
      unfold listed
      rw [hactive]
      cases plan.connective with
      | all => exact upToFailure_singleton _ only
      | any => rfl

theorem report_results_of_single (hfilters : plan.filters = [only])
    (result : Criterion Hook → CriterionResult) :
    (plan.report result).results =
      if only.criteria.isEmpty then [] else [only.report result] := by
  rw [report_results, listed_of_single hfilters]
  split <;> rfl

end GroupPlan

theorem FilterPlan.report_results_of_single {plan : FilterPlan Hook} {only : Criterion Hook}
    (hcriteria : plan.criteria = [only]) (result : Criterion Hook → CriterionResult) :
    (plan.report result).results = [result only] := by
  have hmixed : plan.isMixed = false := by
    rw [isMixed, hcriteria]
    cases hheavy : only.heavy <;> simp [hheavy]
  have hshort : plan.isCutShort (fun c => (result c).passed) = false := by
    simp [isCutShort, hmixed]
  rw [report_results, listed, hshort, if_neg Bool.false_ne_true, hcriteria]
  rfl

/-! ## Outcomes -/

namespace Plan

variable {plan : GroupPlan Hook} {only : FilterPlan Hook}

theorem outcome_filter (hfilters : plan.filters = [only])
    (result : Criterion Hook → CriterionResult) :
    (Plan.mk plan .filter).outcome (plan.report result) =
      .filter (if only.criteria.isEmpty then .ofNothing only.connective
        else only.report result) := by
  unfold outcome
  rw [GroupPlan.report_results_of_single hfilters]
  cases only.criteria.isEmpty with
  | true => simp [hfilters]
  | false => rfl

theorem outcome_criterion {criterion : Criterion Hook} (hfilters : plan.filters = [only])
    (hcriteria : only.criteria = [criterion]) (result : Criterion Hook → CriterionResult) :
    (Plan.mk plan .criterion).outcome (plan.report result) = .criterion (result criterion) := by
  have hresults := GroupPlan.report_results_of_single hfilters result
  rw [hcriteria] at hresults
  unfold outcome
  simp [hresults, FilterPlan.report_results_of_single hcriteria]

end Plan

/-- The part of the result that is the expression's own has its level and its verdict. -/
theorem Expression.outcome_of_isPlan {registry : Registry Hook} {expression : Expression Hook}
    {plan : GroupPlan Hook} (h : expression.toGroup.IsPlan registry plan)
    (result : Criterion Hook → CriterionResult) :
    let outcome := (Plan.mk plan expression.level).outcome (plan.report result)
    outcome.level = expression.level ∧
      outcome.passed = expression.holds registry fun c => (result c).passed := by
  intro outcome
  cases expression with
  | node n =>
      rcases exists_eq_singleton h.filters with ⟨only, hfilter, hfilters⟩
      rcases exists_eq_singleton hfilter.criteria with ⟨criterion, hcriterion, hcriteria⟩
      have houtcome : outcome = .criterion (result criterion) :=
        Plan.outcome_criterion hfilters hcriteria result
      rw [houtcome]
      constructor
      · rfl
      · rw [Expression.holds, Node.holds, hcriterion]
        rfl
  | filter f =>
      rcases exists_eq_singleton h.filters with ⟨only, hfilter, hfilters⟩
      have houtcome : outcome = .filter _ := Plan.outcome_filter hfilters result
      rw [houtcome]
      constructor
      · rfl
      · rw [Expression.holds, ← hfilter.holds, hfilter.criteria.isEmpty]
        cases only.criteria.isEmpty with
        | true => rfl
        | false => exact FilterPlan.report_passed result only
  | group g =>
      have hpassed : outcome.passed = (plan.report result).passed := rfl
      constructor
      · rfl
      · rw [hpassed, GroupPlan.report_passed, h.holds]
        rfl

/-! ## Evaluation -/

theorem Engine.evaluate_eq_of_plan {env : Environment Hook} {record : Value}
    {expression : Expression Hook} {engine : Engine Hook} {plan : Plan Hook}
    (h : engine.plan expression = .ok plan) :
    evaluate env record expression engine =
      (.ok (plan.evaluate env record engine.workspace).1,
        { engine with workspace := (plan.evaluate env record engine.workspace).2 }) := by
  rw [evaluate, bind_apply, get_apply]
  simp only [h]
  rfl

theorem Engine.evaluate_of_plan {env : Environment Hook} {record : Value}
    {expression : Expression Hook} {engine : Engine Hook} {plan : Plan Hook}
    (h : engine.plan expression = .ok plan) :
    (evaluate env record expression engine).1 =
      .ok (plan.outcome (plan.group.evaluate env record engine.workspace).1) := by
  rw [evaluate_eq_of_plan h]
  rfl

/--
An expression whose references can be resolved is evaluated without an error.  Its
outcome has its level and the verdict that it means, given the verdicts of its
criteria on their own.
-/
theorem evaluate_holds (env : Environment Hook) (record : Value) {expression : Expression Hook}
    {engine : Engine Hook} (h : expression.Resolves engine.registry) (alone : Workspace Hook) :
    ∃ outcome, (Engine.evaluate env record expression engine).1 = .ok outcome ∧
      outcome.level = expression.level ∧
      outcome.passed =
        expression.holds engine.registry fun c => (c.evaluate env record alone).1.passed := by
  rcases Expression.exists_plan h with ⟨plan, hplan, hgroup⟩
  have hanswer := @Engine.evaluate_of_plan Hook env record _ _ _ hplan
  rw [plan.evaluate_fst env record alone] at hanswer
  exact ⟨_, hanswer, Expression.outcome_of_isPlan hgroup _⟩

theorem evaluate_holds_of_saved_heavy :
    let aged : Criterion Empty :=
      { Criterion.ofTest (.operator (.boolean .isNotNil)) .undefined with
        path := ["age"], heavy := true }
    let isMember : Criterion Empty :=
      { Criterion.ofTest (.operator (.boolean .is)) (.boolean true) with path := ["member"] }
    let group : Expression Empty :=
      .group ⟨.any, [⟨.any, []⟩, ⟨.all, [.reference (.ofAlias "aged"), .criterion isMember]⟩]⟩
    let workspace : Workspace Empty := ⟨.forgetful, #[]⟩
    let engine : Engine Empty := ⟨.default, [("aged", aged)], workspace⟩
    let env : Environment Empty := ⟨⟨nofun, nofun, nofun, nofun⟩, ⟨0, 0⟩, .undefined⟩
    let record : Value := .object [("age", .null), ("member", .boolean true)]
    group.Resolves engine.registry ∧
      ∃ outcome, (Engine.evaluate env record group engine).1 = .ok outcome ∧
        outcome.level = .group ∧
        outcome.passed =
          group.holds engine.registry fun c => (c.evaluate env record workspace).1.passed := by
  intro aged isMember group workspace engine env record
  have hresolves : group.Resolves engine.registry := by
    intro reference hmem
    have hreference : reference = .ofAlias "aged" := by
      simpa [group, Expression.nodes] using hmem
    rw [hreference]
    exact ⟨aged, rfl⟩
  exact ⟨hresolves, evaluate_holds env record hresolves workspace⟩

end RecordFilter
