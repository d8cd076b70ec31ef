import RecordFilter.Engine.Batch
import RecordFilter.Proofs.Evaluation.Meaning

/-!
# References as abbreviations

A reference stands for a criterion that the saved criteria determine.  An expression can
therefore be written out, with the criteria in place of the references, and means the same
where nothing is saved.

Planning takes the members of an expression in the order of the document, so the first one
that cannot be resolved decides on the error.  As planning comes before everything else,
nothing has happened by then.

The main statement says both: references that can be resolved abbreviate, and the first one
that cannot makes every use of the expression fail and leaves the engine as it was.
-/

namespace RecordFilter

variable {Hook : Type}

/-! ## Writing out -/

section Inlined

variable (registry : Registry Hook)

/-- The criterion that a reference stands for, in its place. -/
def Node.inlined : Node Hook → Node Hook
  | .criterion c => .criterion c
  | .reference r =>
      match registry.resolve r with
      | .ok c => .criterion c
      | .error _ => .reference r

def Filter.inlined (filter : Filter Hook) : Filter Hook :=
  { filter with nodes := filter.nodes.map (Node.inlined registry) }

def FilterGroup.inlined (group : FilterGroup Hook) : FilterGroup Hook :=
  { group with filters := group.filters.map (Filter.inlined registry) }

def Expression.inlined : Expression Hook → Expression Hook
  | .node n => .node (n.inlined registry)
  | .filter f => .filter (f.inlined registry)
  | .group g => .group (g.inlined registry)

theorem Expression.level_inlined (expression : Expression Hook) :
    (expression.inlined registry).level = expression.level := by
  cases expression <;> rfl

theorem Expression.toGroup_inlined (expression : Expression Hook) :
    (expression.inlined registry).toGroup = expression.toGroup.inlined registry := by
  cases expression <;> rfl

end Inlined

theorem Registry.plan_inlined {registry : Registry Hook} {node : Node Hook}
    (h : ∃ criterion, registry.plan node = .ok criterion) (other : Registry Hook) :
    other.plan (node.inlined registry) = registry.plan node := by
  cases node with
  | criterion criterion => rfl
  | reference reference =>
      rcases h with ⟨criterion, hcriterion⟩
      have hresolve : registry.resolve reference = .ok criterion := hcriterion
      rw [hcriterion, Node.inlined, hresolve]
      rfl

theorem Filter.plan_inlined {registry : Registry Hook} {filter : Filter Hook}
    (h : ∀ node ∈ filter.nodes, ∃ criterion, registry.plan node = .ok criterion)
    (other : Registry Hook) : (filter.inlined registry).plan other = filter.plan registry := by
  have hnodes : (filter.nodes.map (Node.inlined registry)).mapM other.plan =
      filter.nodes.mapM registry.plan := by
    rw [List.mapM_map]
    exact mapM_congr_of_mem fun node hnode => Registry.plan_inlined (h node hnode) other
  rw [Filter.plan, Filter.plan, Filter.inlined, hnodes]

theorem Expression.plan_inlined {registry : Registry Hook} {expression : Expression Hook}
    (h : expression.Resolves registry) (other : Registry Hook) :
    (expression.inlined registry).plan other = expression.plan registry := by
  have hnodes := resolves_iff.mp h
  have hfilters : (expression.toGroup.filters.map (Filter.inlined registry)).mapM
      (Filter.plan other) = expression.toGroup.filters.mapM (Filter.plan registry) := by
    rw [List.mapM_map]
    refine mapM_congr_of_mem fun filter hfilter => Filter.plan_inlined ?_ other
    intro node hnode
    exact hnodes node (mem_nodes_of_toGroup hfilter hnode)
  rw [Expression.plan, Expression.plan, toGroup_inlined, level_inlined, FilterGroup.plan,
    FilterGroup.plan, FilterGroup.inlined, hfilters]

/-! ## The first failure -/

theorem exists_first_not {α : Type} {p : α → Prop} {xs : List α} (h : ¬ ∀ x ∈ xs, p x) :
    ∃ before x after, xs = before ++ x :: after ∧ (∀ y ∈ before, p y) ∧ ¬ p x := by
  induction xs with
  | nil => exact absurd (fun x hx => nomatch hx) h
  | cons x rest ih =>
      by_cases hx : p x
      · have hrest : ¬ ∀ y ∈ rest, p y := by
          intro hall
          exact h (List.forall_mem_cons.mpr ⟨hx, hall⟩)
        rcases ih hrest with ⟨before, y, after, hsplit, hbefore, hy⟩
        refine ⟨x :: before, y, after, ?_, List.forall_mem_cons.mpr ⟨hx, hbefore⟩, hy⟩
        rw [hsplit, List.cons_append]
      · exact ⟨[], x, rest, rfl, List.forall_mem_nil p, hx⟩

theorem mapM_plan_criteria (registry : Registry Hook) (filters : List (Filter Hook)) :
    (filters.mapM (Filter.plan registry)).map (List.flatMap FilterPlan.criteria) =
      (filters.flatMap Filter.nodes).mapM registry.plan := by
  induction filters with
  | nil => rfl
  | cons filter rest ih =>
      rw [List.mapM_cons, List.flatMap_cons, List.mapM_append, ← ih, Filter.plan]
      cases filter.nodes.mapM registry.plan with
      | error e => rfl
      | ok criteria =>
          cases rest.mapM (Filter.plan registry) with
          | error e => rfl
          | ok plans => rfl

theorem Expression.nodes_toGroup (expression : Expression Hook) :
    expression.toGroup.filters.flatMap Filter.nodes = expression.nodes := by
  cases expression with
  | node n => rfl
  | filter f => exact List.append_nil f.nodes
  | group g => rfl

theorem Expression.isEmpty_iff {expression : Expression Hook} :
    expression.isEmpty = true ↔ expression.nodes = [] := by
  rw [isEmpty, count, nodes_toGroup, beq_iff_eq, List.length_eq_zero_iff]

theorem Expression.plan_eq_error {registry : Registry Hook} {expression : Expression Hook}
    {e : FilterError} (h : expression.nodes.mapM registry.plan = .error e) :
    expression.plan registry = .error e := by
  rw [← nodes_toGroup, ← mapM_plan_criteria] at h
  rw [Expression.plan, FilterGroup.plan]
  cases hfilters : expression.toGroup.filters.mapM (Filter.plan registry) with
  | error e' =>
      rw [hfilters] at h
      cases h
      rfl
  | ok plans =>
      rw [hfilters] at h
      cases h

/-- Where an expression cannot be planned there is a first reference that stands for nothing. -/
theorem Expression.exists_first_unresolved {registry : Registry Hook}
    {expression : Expression Hook} (h : ¬ expression.Resolves registry) :
    ∃ before reference after e, expression.nodes = before ++ .reference reference :: after ∧
      (∀ node ∈ before, ∃ criterion, registry.plan node = .ok criterion) ∧
      registry.resolve reference = .error e ∧ expression.plan registry = .error e := by
  rw [resolves_iff] at h
  rcases exists_first_not h with ⟨before, node, after, hsplit, hbefore, hnode⟩
  cases node with
  | criterion criterion => exact absurd ⟨criterion, rfl⟩ hnode
  | reference reference =>
      cases hresolve : registry.resolve reference with
      | ok criterion => exact absurd ⟨criterion, hresolve⟩ hnode
      | error e =>
          refine ⟨before, reference, after, e, hsplit, hbefore, hresolve, plan_eq_error ?_⟩
          rw [hsplit]
          exact mapM_eq_error hbefore hresolve

theorem Expression.not_isEmpty_of_plan_eq_error {registry : Registry Hook}
    {expression : Expression Hook} {e : FilterError} (h : expression.plan registry = .error e) :
    expression.isEmpty = false := by
  rw [Bool.eq_false_iff]
  intro hempty
  have hresolves : expression.Resolves registry := by
    rw [resolves_iff, isEmpty_iff.mp hempty]
    intro node hnode
    cases hnode
  rcases exists_plan hresolves with ⟨plan, hplan, _⟩
  rw [h] at hplan
  cases hplan

/-! ## Uses of an expression -/

namespace Engine

/-- An engine on which an expression fails with an error, whatever it is used for. -/
structure Refuses (engine : Engine Hook) (expression : Expression Hook) (e : FilterError) :
    Prop where
  evaluation : ∀ env record, evaluate env record expression engine = (.error e, engine)
  validation : engine.validate expression = .error e
  filtering : ∀ env records concurrency,
    filterRecords env records expression concurrency engine = (.error e, engine)

theorem refuses_of_plan {engine : Engine Hook} {expression : Expression Hook} {e : FilterError}
    (h : engine.plan expression = .error e) :
    engine.Refuses expression e where
  evaluation env record := by
    rw [evaluate, bind_apply, get_apply]
    simp only [h]
    rfl
  validation := by
    rw [validate, h]
    rfl
  filtering env records concurrency := by
    have hactive : engine.activePlan expression = .error e := by
      rw [activePlan, Expression.not_isEmpty_of_plan_eq_error h, h]
      rfl
    rw [filterRecords, bind_apply, get_apply]
    simp only [hactive]
    rfl

end Engine

/--
References that can be resolved abbreviate: on an engine without saved criteria the written
out expression has the same outcome, and the same things happen on the way; its outcome is
the same on any other engine.  Otherwise the first reference that cannot be resolved
decides on the error of every use.
-/
theorem references_abbreviate (engine : Engine Hook) (expression : Expression Hook) :
    (expression.Resolves engine.registry → ∀ env record,
      let written := expression.inlined engine.registry
      let run := Engine.evaluate env record expression engine
      Engine.evaluate env record written (Engine.clear engine).2 =
          (run.1, (Engine.clear run.2).2) ∧
        ∀ other : Engine Hook, (Engine.evaluate env record written other).1 = run.1) ∧
    (¬ expression.Resolves engine.registry →
      ∃ before reference after e, expression.nodes = before ++ .reference reference :: after ∧
        (∀ node ∈ before, ∃ criterion, engine.registry.plan node = .ok criterion) ∧
        engine.registry.resolve reference = .error e ∧ engine.Refuses expression e) := by
  constructor
  · intro h env record written run
    rcases Expression.exists_plan h with ⟨plan, hplan, _⟩
    have hrun : run = _ := Engine.evaluate_eq_of_plan hplan
    have hwritten : ∀ other : Engine Hook, other.plan written = .ok ⟨plan, expression.level⟩ := by
      intro other
      exact (Expression.plan_inlined h other.registry).trans hplan
    constructor
    · rw [Engine.evaluate_eq_of_plan (hwritten _), hrun]
      rfl
    · intro other
      have halone := plan.evaluate_fst env record engine.workspace
      have hanswer := @Engine.evaluate_of_plan Hook env record _ _ _ hplan
      rw [Engine.evaluate_of_plan (hwritten other), halone]
      exact (hanswer.trans (by rw [halone])).symm
  · intro h
    rcases Expression.exists_first_unresolved h with
      ⟨before, reference, after, e, hsplit, hbefore, hresolve, hplan⟩
    exact ⟨before, reference, after, e, hsplit, hbefore, hresolve, Engine.refuses_of_plan hplan⟩

theorem references_abbreviate_of_one_saved :
    let aged : Criterion Empty :=
      { Criterion.ofTest (.operator (.boolean .isNotNil)) .undefined with path := ["age"] }
    let engine : Engine Empty := ⟨.default, [("aged", aged)], ⟨.forgetful, #[]⟩⟩
    let env : Environment Empty := ⟨⟨nofun, nofun, nofun, nofun⟩, ⟨0, 0⟩, .undefined⟩
    let record : Value := .object [("age", .null)]
    let saved : Node Empty := .reference (.ofAlias "aged")
    let unsaved : Node Empty := .reference (.ofAlias "tall")
    let known : Expression Empty := .filter ⟨.all, [saved, .criterion aged]⟩
    let unknown : Expression Empty := .group ⟨.any, [⟨.all, [saved]⟩, ⟨.all, [unsaved, saved]⟩]⟩
    (known.Resolves engine.registry ∧
      (Engine.evaluate env record (.filter ⟨.all, [.criterion aged, .criterion aged]⟩)
        (Engine.clear engine).2).1 = (Engine.evaluate env record known engine).1) ∧
    ¬ unknown.Resolves engine.registry ∧ ∃ e, engine.Refuses unknown e := by
  intro aged engine env record saved unsaved known unknown
  have hresolve : engine.registry.resolve (.ofAlias "aged") = .ok aged := rfl
  have hknown : known.Resolves engine.registry := by
    intro reference hmem
    have hreference : reference = .ofAlias "aged" := by
      simpa [known, saved, Expression.nodes] using hmem
    rw [hreference]
    exact ⟨aged, hresolve⟩
  have hwritten : known.inlined engine.registry =
      .filter ⟨.all, [.criterion aged, .criterion aged]⟩ := by
    simp only [known, saved, Expression.inlined, Filter.inlined, List.map_cons, List.map_nil,
      Node.inlined, hresolve]
  have hunknown : ¬ unknown.Resolves engine.registry := by
    intro h
    have hmem : unsaved ∈ unknown.nodes := by simp [unknown, Expression.nodes]
    rcases h _ hmem with ⟨criterion, hcriterion⟩
    cases hcriterion
  refine ⟨⟨hknown, ?_⟩, hunknown, ?_⟩
  · rw [← hwritten, ((references_abbreviate engine known).1 hknown env record).1]
  · rcases (references_abbreviate engine unknown).2 hunknown with ⟨_, _, _, e, _, _, _, hrefuses⟩
    exact ⟨e, hrefuses⟩

end RecordFilter
