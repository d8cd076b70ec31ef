import RecordFilter.Proofs.Evaluation.Folded

/-!
# Criteria that are mapped to themselves

A criterion with a mapper is evaluated in two rounds.  The first one settles the operand and
hands it to the mapper as a literal, in the form in which the criterion compares values; the
second one evaluates what the mapper gives back, and brings the operand to that form again.

The main statement is that nothing of this shows in the result if the mapper gives back the
criterion it gets.  Custom predicates never come to a mapper, and a function that fails does
so before the mapper is called.
-/

namespace RecordFilter

variable {Hook : Type}

/-! ## What functions of the caller do with criteria -/

namespace Hooks

def GivesBack (hooks : Hooks Hook) (mapper : Hook) : Prop :=
  ∀ criterion record context, hooks.criterion mapper criterion record context = .ok criterion

def OverlooksMapper (hooks : Hooks Hook) (compute : Hook) : Prop :=
  ∀ (criterion : Criterion Hook) mapper record context,
    hooks.operand compute { criterion with criterionMapper := mapper } record context =
      hooks.operand compute criterion record context

end Hooks

/-! ## Answers of attempts -/

theorem Attempt.bind_fst {α β : Type} (attempt : Attempt Hook α) (next : α → Attempt Hook β)
    (w : Workspace Hook) :
    ((attempt >>= next) w).1 = (attempt w).1.bind fun a => (next a (attempt w).2).1 := by
  have hrun : ((attempt >>= next).run w).1 =
      (attempt.run w).1.bind fun a => (next a (attempt.run w).2).1 := by
    rw [ExceptT.run_bind, bind_apply]
    cases (attempt.run w).1 with
    | ok a => rfl
    | error e => rfl
  exact hrun

namespace Criterion

def operandIn (env : Environment Hook) (record : Value) (criterion : Criterion Hook) :
    Except HookError Value :=
  match criterion.operand with
  | .computed compute => env.hooks.operand compute criterion record env.context
  | operand => .ok (operand.valueIn record)

theorem operandFor_fst (env : Environment Hook) (record : Value) (criterion : Criterion Hook)
    (w : Workspace Hook) :
    (criterion.operandFor env record w).1 = criterion.operandIn env record := by
  unfold operandFor operandIn
  cases criterion.operand with
  | literal v => rfl
  | path names => rfl
  | computed compute => rfl

theorem operandIn_congr {env : Environment Hook} {record : Value} {a b : Criterion Hook}
    (h : a.operand = b.operand)
    (hcompute : ∀ compute, a.operand = .computed compute →
      env.hooks.operand compute a record env.context =
        env.hooks.operand compute b record env.context) :
    a.operandIn env record = b.operandIn env record := by
  unfold operandIn
  rw [← h]
  cases hoperand : a.operand with
  | computed compute => exact hcompute compute hoperand
  | _ => rfl

def settled (criterion : Criterion Hook) : Except HookError CriterionResult → CriterionResult
  | .ok result => result
  | .error e => ⟨criterion.operand.describe, false, e.message, .undefined⟩

theorem settle_fst_eq_settled (criterion : Criterion Hook)
    (attempt : Attempt Hook CriterionResult) (w : Workspace Hook) :
    (criterion.settle attempt w).1 = criterion.settled (attempt w).1 := by
  have hrun : (criterion.settle attempt w).1 = criterion.settled (attempt.run w).1 := by
    unfold settle
    rw [bind_apply]
    cases (attempt.run w).1 with
    | ok result => rfl
    | error e => rfl
  exact hrun

/-- What a criterion answers once its operand is known, if `judged` tells what it goes on to. -/
def answerFor (env : Environment Hook) (record : Value) (criterion : Criterion Hook)
    (judged : Value → CriterionResult) (operand : Value) : Except HookError CriterionResult :=
  match criterion.test with
  | .custom predicate =>
      (env.hooks.holds predicate operand record).map fun passed =>
        ⟨operand.display, passed, criterion.test.label ++ " " ++ verdictWord passed, record⟩
  | .operator _ => .ok (judged (criterion.form operand))

theorem withOperand_fst {env : Environment Hook} {record : Value} {criterion : Criterion Hook}
    {next : Value → Attempt Hook CriterionResult} {judged : Value → CriterionResult}
    (hnext : ∀ op, criterion.test = .operator op →
      ∀ operand w, (next operand w).1 = .ok (judged operand))
    (w : Workspace Hook) :
    (criterion.withOperand env record next w).1 =
      (criterion.operandIn env record).bind (criterion.answerFor env record judged) := by
  unfold withOperand
  rw [Attempt.bind_fst, operandFor_fst]
  cases criterion.operandIn env record with
  | error e => rfl
  | ok operand =>
      show ((match criterion.test with
        | .custom _ => _
        | .operator _ => _ : Attempt Hook CriterionResult) _).1 =
          criterion.answerFor env record judged operand
      unfold answerFor
      cases htest : criterion.test with
      | custom predicate =>
          dsimp only
          rw [Attempt.bind_fst]
          cases env.hooks.holds predicate operand record with
          | error e => rfl
          | ok passed => rfl
      | operator op =>
          have hform : ∀ w, ((liftM (criterion.normalizeFor operand) : Attempt Hook Value) w).1 =
              .ok (criterion.form operand) :=
            fun w => congrArg Except.ok (normalizeFor_fst criterion operand w)
          dsimp only
          rw [Attempt.bind_fst, hform]
          exact hnext op htest (criterion.form operand) _

/-! ## With and without a mapper -/

theorem form_form (criterion : Criterion Hook) (v : Value) :
    criterion.form (criterion.form v) = criterion.form v := by
  unfold form
  split
  · exact Value.folded_folded v
  · rfl

theorem evaluateAsIs_eq_evaluate {criterion : Criterion Hook}
    (h : criterion.criterionMapper = none) (env : Environment Hook) (record : Value) :
    criterion.evaluateAsIs env record = criterion.evaluate env record := by
  unfold evaluateAsIs evaluate
  rw [h]

def judgement (env : Environment Hook) (record : Value) (criterion : Criterion Hook)
    (operand : Value) : CriterionResult :=
  let found := Path.resolve record criterion.path criterion.default
  criterion.judge env.now operand found.branched (criterion.form found.value)

theorem evaluate_fst_of_unmapped {criterion : Criterion Hook}
    (hcriterion : criterion.criterionMapper = none) (hvalue : criterion.valueMapper = none)
    (env : Environment Hook) (record : Value) (w : Workspace Hook) :
    (criterion.evaluate env record w).1 =
      criterion.settled ((criterion.operandIn env record).bind
        (criterion.answerFor env record (criterion.judgement env record))) := by
  unfold evaluate
  rw [hcriterion, settle_fst_eq_settled, withOperand_fst]
  intro op hop operand w
  exact testRecord_fst hvalue env record operand w

/-- The criterion that a mapper gets to see. -/
def seed (criterion : Criterion Hook) (operand : Value) : Criterion Hook :=
  { criterion with operand := .literal operand, criterionMapper := none }

theorem mapWith_fst {env : Environment Hook} {mapper : Hook} (h : env.hooks.GivesBack mapper)
    (record : Value) (criterion : Criterion Hook) (operand : Value) (w : Workspace Hook) :
    (criterion.mapWith env record mapper operand w).1 = .ok (criterion.seed operand) := by
  unfold mapWith
  rw [h]
  rfl

/-- In the second round the operand is brought to its form once more, which changes nothing. -/
theorem evaluateAsIs_seed_fst {criterion : Criterion Hook} (hvalue : criterion.valueMapper = none)
    {op : Operator} (hop : criterion.test = .operator op) (env : Environment Hook)
    (record operand : Value) (w : Workspace Hook) :
    ((criterion.seed operand).evaluateAsIs env record w).1 =
      criterion.judgement env record (criterion.form operand) := by
  have hcalls : (criterion.seed operand).CallsNothing := ⟨⟨op, hop⟩, nofun, rfl, hvalue⟩
  rw [evaluateAsIs_eq_evaluate rfl, hcalls.evaluate_fst]
  rfl

theorem evaluate_fst_of_givesBack {criterion : Criterion Hook} {env : Environment Hook}
    {mapper : Hook} (hmapper : criterion.criterionMapper = some mapper)
    (hvalue : criterion.valueMapper = none) (h : env.hooks.GivesBack mapper)
    (record : Value) (w : Workspace Hook) :
    (criterion.evaluate env record w).1 =
      criterion.settled ((criterion.operandIn env record).bind
        (criterion.answerFor env record (criterion.judgement env record))) := by
  have hanswer : criterion.answerFor env record
      (fun operand => criterion.judgement env record (criterion.form operand)) =
        criterion.answerFor env record (criterion.judgement env record) := by
    funext operand
    unfold answerFor
    cases criterion.test with
    | custom predicate => rfl
    | operator op =>
        show Except.ok (criterion.judgement env record
          (criterion.form (criterion.form operand))) = _
        rw [form_form]
  unfold evaluate
  rw [hmapper, settle_fst_eq_settled, ← hanswer, withOperand_fst]
  intro op hop operand w
  dsimp only
  rw [Attempt.bind_fst, mapWith_fst h]
  exact congrArg Except.ok (evaluateAsIs_seed_fst hvalue hop env record operand _)

/--
Attaching a mapper that gives back what it gets to a criterion without a value mapper leaves
the result as it is, also where the operand cannot be computed or a predicate fails.
-/
theorem evaluate_mapped_to_itself {env : Environment Hook} {mapper : Hook}
    (hmapper : env.hooks.GivesBack mapper) {criterion : Criterion Hook}
    (hvalue : criterion.valueMapper = none)
    (hcompute : ∀ compute, criterion.operand = .computed compute →
      env.hooks.OverlooksMapper compute)
    (record : Value) (w other : Workspace Hook) :
    ({ criterion with criterionMapper := some mapper }.evaluate env record w).1 =
      ({ criterion with criterionMapper := none }.evaluate env record other).1 := by
  let attached : Criterion Hook := { criterion with criterionMapper := some mapper }
  let plain : Criterion Hook := { criterion with criterionMapper := none }
  have hoperand : attached.operandIn env record = plain.operandIn env record := by
    refine operandIn_congr rfl ?_
    intro compute hcomputed
    have hoverlooks := hcompute compute hcomputed criterion
    exact (hoverlooks (some mapper) record env.context).trans
      (hoverlooks none record env.context).symm
  have hattach : attached.criterionMapper = some mapper := rfl
  have hnone : plain.criterionMapper = none := rfl
  have hattached := evaluate_fst_of_givesBack hattach hvalue hmapper record w
  have hplain := evaluate_fst_of_unmapped hnone hvalue env record other
  rw [hattached, hplain, hoperand]
  rfl

theorem evaluate_mapped_to_itself_of_computed :
    let compute (criterion : Criterion Bool) (record : Value) : Except HookError Value :=
      match record with
      | .object _ => .ok (.string (" Wanted by " ++ criterion.describe))
      | _ => .error ⟨"no object", []⟩
    let hooks : Hooks Bool :=
      { holds := fun _ _ _ => .ok true
        operand := fun _ criterion record _ => compute criterion record
        criterion := fun _ criterion _ _ => .ok criterion
        value := fun _ _ record _ => .ok record }
    let env : Environment Bool := ⟨hooks, ⟨0, 0⟩, .undefined⟩
    let criterion : Criterion Bool :=
      { ofTest (.operator (.string .equals)) .undefined with
        operand := .computed false, path := ["name"] }
    let record : Value := .object [("name", .string "wanted BY string:equals")]
    hooks.GivesBack true ∧ hooks.OverlooksMapper false ∧ criterion.valueMapper = none ∧
      ∀ w : Workspace Bool,
        ({ criterion with criterionMapper := some true }.evaluate env record w).1 =
          (criterion.evaluate env record w).1 ∧
        ({ criterion with criterionMapper := some true }.evaluate env .null w).1 =
          (criterion.evaluate env .null w).1 ∧
        (criterion.evaluate env .null w).1 = ⟨"<computed>", false, "no object", .undefined⟩ := by
  intro compute hooks env criterion record
  have hgives : env.hooks.GivesBack true := fun _ _ _ => rfl
  have hoverlooks : hooks.OverlooksMapper false := fun _ _ _ _ => rfl
  have hcompute : ∀ compute, criterion.operand = .computed compute →
      env.hooks.OverlooksMapper compute := by
    intro compute h
    cases h
    exact hoverlooks
  refine ⟨hgives, hoverlooks, rfl, ?_⟩
  intro w
  refine ⟨?_, ?_, rfl⟩
  · exact evaluate_mapped_to_itself hgives rfl hcompute record w w
  · exact evaluate_mapped_to_itself hgives rfl hcompute .null w w

end Criterion
end RecordFilter
