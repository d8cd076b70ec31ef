import RecordFilter.Proofs.Evaluation.Meaning
import RecordFilter.Proofs.Path.Collection

/-!
# A criterion on its own

An expression that is one criterion is evaluated like the criterion.  If no function of
the caller is involved, the evaluation brings the operand and the value found to their
comparison form and judges them, so it depends on little: not on the context, not on
the workspace, and on the default value only if the path leads nowhere.
-/

namespace RecordFilter

variable {Hook : Type}

/-! ## Criteria with a literal operand -/

namespace Criterion

def ofLiteral (op : Operator) (path : Path) (operand default : Value) : Criterion Hook :=
  { ofTest (.operator op) operand with path := path, default := default }

def form (criterion : Criterion Hook) (v : Value) : Value :=
  if criterion.normalize then v.folded else v

theorem form_undefined (criterion : Criterion Hook) : criterion.form .undefined = .undefined := by
  unfold form
  split <;> rfl

theorem form_null (criterion : Criterion Hook) : criterion.form .null = .null := by
  unfold form
  split <;> rfl

theorem normalizeFor_fst (criterion : Criterion Hook) (v : Value) (w : Workspace Hook) :
    (criterion.normalizeFor v w).1 = criterion.form v := by
  unfold normalizeFor form
  split
  · exact Normalizer.value_fst v w.normalizer
  · rfl

section OfLiteral

variable (env : Environment Hook) (record : Value) (op : Operator) (path : Path)
  (operand default : Value) (w : Workspace Hook)

/-- Without functions of the caller a criterion judges what its path leads to. -/
theorem evaluate_ofLiteral :
    let criterion : Criterion Hook := ofLiteral op path operand default
    let found := Path.resolve record path default
    (criterion.evaluate env record w).1 =
      criterion.judge env.now (criterion.form operand) found.branched
        (criterion.form found.value) := by
  intro criterion found
  have hforms := normalizeFor_fst criterion
  show (criterion.judge env.now (criterion.normalizeFor operand w).1 found.branched
    (criterion.normalizeFor found.value _).1) = _
  rw [hforms, hforms]

theorem evaluate_ofLiteral_operand :
    let criterion : Criterion Hook := ofLiteral op path operand default
    (criterion.evaluate env record w).1.operand = (criterion.form operand).display :=
  congrArg CriterionResult.operand (evaluate_ofLiteral env record op path operand default w)

theorem evaluate_ofLiteral_value :
    let criterion : Criterion Hook := ofLiteral op path operand default
    (criterion.evaluate env record w).1.value =
      criterion.form (Path.resolve record path default).value :=
  congrArg CriterionResult.value (evaluate_ofLiteral env record op path operand default w)

theorem evaluate_ofLiteral_congr {default other : Value}
    (h : Path.resolve record path default = Path.resolve record path other) (context : Value) :
    ((ofLiteral op path operand default).evaluate { env with context := context } record w).1 =
      ((ofLiteral op path operand other).evaluate env record w).1 := by
  rw [evaluate_ofLiteral, evaluate_ofLiteral, h]
  rfl

end OfLiteral

end Criterion

/-! ## Expressions of one criterion -/

theorem Engine.evaluate_criterion (env : Environment Hook) (record : Value)
    (criterion : Criterion Hook) (engine : Engine Hook) :
    (evaluate env record (.node (.criterion criterion)) engine).1 =
      .ok (.criterion (criterion.evaluate env record engine.workspace).1) := by
  let plan : GroupPlan Hook := ⟨.all, [⟨.all, [criterion]⟩]⟩
  have hplan : engine.plan (.node (.criterion criterion)) = .ok ⟨plan, .criterion⟩ := rfl
  rw [evaluate_of_plan hplan, plan.evaluate_fst env record engine.workspace]
  exact congrArg Except.ok (Plan.outcome_criterion rfl rfl _)

end RecordFilter
