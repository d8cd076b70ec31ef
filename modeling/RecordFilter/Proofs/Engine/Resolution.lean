import RecordFilter.Proofs.Engine.Session
import RecordFilter.Proofs.Operator.Names

/-!
# What a reference resolves to

A reference stands for the saved criterion with some settings replaced.  A new type, or a
new name of the operator, makes the test be looked up among the operators of the resulting
type, which may fail.  A new type does away with the default value as well.  All settings
that the reference says nothing about are the saved ones.

The main statement says exactly when a reference can be resolved and to what, and that the
saved criteria stay what they are, whatever an engine is asked.
-/

namespace RecordFilter

variable {Hook : Type}

namespace Reference

variable (reference : Reference Hook) (saved : Criterion Hook)

def target : CriterionType :=
  reference.type.getD saved.test.type

def operatorText : String :=
  reference.operator.getD saved.test.operatorName

/-- The test is looked up anew: its type changes or the reference names an operator. -/
def Retests : Prop :=
  reference.target saved ≠ saved.test.type ∨ reference.operator ≠ none

/-- An operator of the resulting type that is called by the resulting name. -/
def AsksFor (op : Operator) : Prop :=
  op.type = reference.target saved ∧ op.IsCalled (reference.operatorText saved)

def refusal : FilterError :=
  if saved.test.type = .custom ∧ reference.target saved = .custom then
    .invalid (.reference reference.aliasName) .customHasNoOperators
  else if reference.target saved = .custom then .invalid .typeField .customWithoutPredicate
  else .unknownOperator (reference.target saved) (reference.operatorText saved)

/-- A criterion is the saved one with the settings of a reference in place of its own. -/
structure Makes (criterion : Criterion Hook) : Prop where
  newTest : reference.Retests saved →
    ∃ op, criterion.test = .operator op ∧ ∀ other, reference.AsksFor saved other ↔ other = op
  savedTest : ¬ reference.Retests saved → criterion.test = saved.test
  operand : criterion.operand = reference.operand.getD saved.operand
  path : criterion.path = reference.path.getD saved.path
  noDefault : reference.target saved ≠ saved.test.type → criterion.default = .undefined
  savedDefault : reference.target saved = saved.test.type → criterion.default = saved.default
  normalize : criterion.normalize = reference.normalize.getD saved.normalize
  matchInArray : criterion.matchInArray = reference.matchInArray.getD saved.matchInArray
  heavy : criterion.heavy = saved.heavy
  aliasName : criterion.aliasName = saved.aliasName
  criterionMapper : criterion.criterionMapper = reference.criterionMapper.or saved.criterionMapper
  valueMapper : criterion.valueMapper = reference.valueMapper.or saved.valueMapper

variable {reference : Reference Hook} {saved : Criterion Hook}

/-! ## The test -/

theorem changesType_iff :
    reference.changesType saved = true ↔ reference.target saved ≠ saved.test.type := by
  unfold changesType target
  cases reference.type with
  | none => simp
  | some type => simp

theorem test_of_not_retests (h : ¬ reference.Retests saved) :
    reference.test saved = .ok saved.test := by
  rw [Retests, not_or, ← changesType_iff, not_not] at h
  simp [test, h]

theorem test_of_retests (h : reference.Retests saved) :
    reference.test saved =
      if saved.test.type = .custom ∧ reference.target saved = .custom then
        .error (.invalid (.reference reference.aliasName) .customHasNoOperators)
      else Test.ofNames (reference.target saved) (reference.operatorText saved) := by
  rw [Retests, ← changesType_iff, Option.ne_none_iff_isSome, ← Bool.or_eq_true] at h
  rw [test, if_pos h]
  rfl

theorem refusal_ne_aliasNotFound (reference : Reference Hook) (saved : Criterion Hook)
    (name : String) : reference.refusal saved ≠ .aliasNotFound name := by
  unfold refusal
  split
  · nofun
  · split
    · nofun
    · nofun

theorem AsksFor.eq {a b : Operator} (ha : reference.AsksFor saved a)
    (hb : reference.AsksFor saved b) : a = b :=
  Operator.eq_of_isCalled (ha.1.trans hb.1.symm) ha.2 hb.2

theorem not_exists_asksFor (h : reference.target saved = .custom) :
    ¬ ∃ op, reference.AsksFor saved op := by
  rintro ⟨op, htype, _⟩
  rw [h] at htype
  exact op.type_ne_custom htype

theorem test_eq_ok_iff (h : reference.Retests saved) {test : Test Hook} :
    reference.test saved = .ok test ↔
      ∃ op, reference.AsksFor saved op ∧ test = .operator op := by
  rw [test_of_retests h]
  split
  · next hcustom =>
      constructor
      · nofun
      · rintro ⟨op, hasks, _⟩
        exact absurd ⟨op, hasks⟩ (not_exists_asksFor hcustom.2)
  · simp only [Test.ofNames_eq_ok_iff, AsksFor, and_assoc]

theorem test_eq_error_iff {e : FilterError} :
    reference.test saved = .error e ↔
      reference.Retests saved ∧ (¬ ∃ op, reference.AsksFor saved op) ∧
        e = reference.refusal saved := by
  by_cases h : reference.Retests saved
  · rw [test_of_retests h, refusal]
    by_cases hcustom : saved.test.type = .custom ∧ reference.target saved = .custom
    · have hnone := not_exists_asksFor hcustom.2
      rw [if_pos hcustom, if_pos hcustom]
      simp [h, hnone, eq_comm]
    · rw [if_neg hcustom, if_neg hcustom, Test.ofNames_eq_error_iff]
      exact (and_iff_right h).symm
  · simp [h, test_of_not_retests h]

/-! ## The criterion -/

theorem applyTo_eq_error_iff {e : FilterError} :
    reference.applyTo saved = .error e ↔ reference.test saved = .error e := by
  unfold applyTo
  cases reference.test saved with
  | error other =>
      constructor
      · intro h
        cases h
        rfl
      · intro h
        cases h
        rfl
  | ok test => exact iff_of_false nofun nofun

theorem makes_of_applyTo {criterion : Criterion Hook}
    (h : reference.applyTo saved = .ok criterion) : reference.Makes saved criterion := by
  rcases bind_eq_ok.mp h with ⟨test, htest, hmade⟩
  cases hmade
  refine {
    newTest := ?_, savedTest := ?_, noDefault := ?_, savedDefault := ?_, operand := rfl
    path := rfl, normalize := rfl, matchInArray := rfl, heavy := rfl, aliasName := rfl
    criterionMapper := rfl, valueMapper := rfl }
  · intro hretests
    rcases (test_eq_ok_iff hretests).mp htest with ⟨op, hasks, rfl⟩
    refine ⟨op, rfl, ?_⟩
    intro other
    constructor
    · intro hother
      exact hother.eq hasks
    · rintro rfl
      exact hasks
  · intro hretests
    rw [test_of_not_retests hretests] at htest
    exact (Except.ok.inj htest).symm
  · intro htype
    exact if_pos (changesType_iff.mpr htype)
  · intro htype
    exact if_neg (fun hchanges => changesType_iff.mp hchanges htype)

theorem Makes.test_eq {criterion : Criterion Hook} (h : reference.Makes saved criterion) :
    reference.test saved = .ok criterion.test := by
  by_cases hretests : reference.Retests saved
  · rcases h.newTest hretests with ⟨op, htest, hasks⟩
    exact (test_eq_ok_iff hretests).mpr ⟨op, (hasks op).mpr rfl, htest⟩
  · rw [test_of_not_retests hretests, h.savedTest hretests]

theorem Makes.default_eq {criterion : Criterion Hook} (h : reference.Makes saved criterion) :
    criterion.default = if reference.changesType saved then .undefined else saved.default := by
  split
  · next hchanges => exact h.noDefault (changesType_iff.mp hchanges)
  · next hchanges =>
      rw [changesType_iff, not_not] at hchanges
      exact h.savedDefault hchanges

theorem applyTo_eq_ok_iff {criterion : Criterion Hook} :
    reference.applyTo saved = .ok criterion ↔ reference.Makes saved criterion := by
  constructor
  · exact makes_of_applyTo
  · intro h
    rw [applyTo, h.test_eq, ← h.default_eq, ← h.operand, ← h.path, ← h.normalize,
      ← h.matchInArray, ← h.criterionMapper, ← h.valueMapper, ← h.heavy, ← h.aliasName]
    rfl

end Reference

/-! ## The saved criteria -/

theorem Request.registry_run (env : Environment Hook) {request : Request Hook}
    (h : request.isEdit = false) (engine : Engine Hook) :
    (request.run env engine).2.registry = engine.registry := by
  rcases exists_does env request engine.registry with ⟨reply, hdoes⟩
  have hafter := hdoes.registry_eq engine.settings engine.workspace
  cases request with
  | alter edit => cases h
  | _ => exact hafter

/--
A reference leads nowhere exactly if nothing is saved under its alias.  Otherwise it fails
exactly if it asks for another test and there is no such operator, and it resolves to the
saved criterion with its own settings in place.  No request but an edit changes what is saved.
-/
theorem resolve_overrides (engine : Engine Hook) (reference : Reference Hook) :
    let found := engine.registry.lookup reference.aliasName
    let result := engine.registry.resolve reference
    (∀ name, result = .error (.aliasNotFound name) ↔ found = none ∧ name = reference.aliasName) ∧
      (∀ saved, found = some saved →
        (∀ e, result = .error e ↔ reference.Retests saved ∧
          (reference.target saved = .custom ∨ ¬ ∃ op, reference.AsksFor saved op) ∧
          e = reference.refusal saved) ∧
        ∀ criterion, result = .ok criterion ↔ reference.Makes saved criterion) ∧
      ∀ (env : Environment Hook) (request : Request Hook), request.isEdit = false →
        (request.run env engine).2.registry = engine.registry := by
  intro found result
  refine ⟨?_, ?_, ?_⟩
  · intro name
    cases hfound : found with
    | none =>
        have hresult : result = .error (.aliasNotFound reference.aliasName) :=
          Registry.resolve_of_none hfound
        simp [hresult, eq_comm]
    | some saved =>
        have hresult : result = reference.applyTo saved := Registry.resolve_of_some hfound
        constructor
        · intro h
          rw [hresult, Reference.applyTo_eq_error_iff, Reference.test_eq_error_iff] at h
          exact absurd h.2.2.symm (reference.refusal_ne_aliasNotFound saved name)
        · intro h
          cases h.1
  · intro saved hfound
    have hresult : result = reference.applyTo saved := Registry.resolve_of_some hfound
    rw [hresult]
    constructor
    · intro e
      rw [Reference.applyTo_eq_error_iff, Reference.test_eq_error_iff,
        or_iff_right_of_imp Reference.not_exists_asksFor]
    · intro criterion
      exact Reference.applyTo_eq_ok_iff
  · intro env request h
    exact request.registry_run env h engine

theorem resolve_overrides_of_new_type :
    let named : Criterion Empty :=
      { Criterion.ofTest (.operator (.string .equals)) (.number .zero) with
        default := .string "none", heavy := true, aliasName := some "zero" }
    let engine : Engine Empty := ⟨.default, [("zero", named)], ⟨.forgetful, #[]⟩⟩
    let env : Environment Empty := ⟨⟨nofun, nofun, nofun, nofun⟩, ⟨0, 0⟩, .undefined⟩
    let counted : Reference Empty :=
      { Reference.ofAlias "zero" with type := some .number, path := some ["count"] }
    let called : Reference Empty := { Reference.ofAlias "zero" with type := some .custom }
    let request : Request Empty :=
      .evaluate .undefined (.object [("count", .number .zero)]) (.node (.reference counted))
    let resolved : Criterion Empty :=
      { named with
        test := .operator (.number (.compare .equals)), path := ["count"], default := .undefined }
    engine.registry.lookup "zero" = some named ∧
      engine.registry.resolve counted = .ok resolved ∧ counted.Makes named resolved ∧
      engine.registry.resolve called = .error (.invalid .typeField .customWithoutPredicate) ∧
      request.isEdit = false ∧ (request.run env engine).2.registry = engine.registry := by
  intro named engine env counted called request resolved
  have hsaved : engine.registry.lookup "zero" = some named := rfl
  have hcounted : engine.registry.resolve counted = .ok resolved := rfl
  have hretests : called.Retests named := .inl nofun
  refine ⟨hsaved, hcounted, ?_, ?_, rfl, ?_⟩
  · exact (((resolve_overrides engine counted).2.1 named hsaved).2 resolved).mp hcounted
  · exact (((resolve_overrides engine called).2.1 named hsaved).1 _).mpr
      ⟨hretests, .inl rfl, rfl⟩
  · exact (resolve_overrides engine counted).2.2 env request rfl

end RecordFilter
