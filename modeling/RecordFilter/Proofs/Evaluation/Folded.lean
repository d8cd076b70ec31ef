import RecordFilter.Proofs.Evaluation.Alone
import RecordFilter.Proofs.Path.Fold

/-!
# Records in comparison form

A criterion that brings what it compares to comparison form does not notice if that has
been done before.  Its operand and the value it tests are what paths lead to, and these have
the same folded forms in a record and in the folded record.

The main statement is that such a criterion gives the same result on both, as long as no
function of the caller gets to see the record.
-/

namespace RecordFilter

variable {Hook : Type}

def Operand.valueIn (record : Value) : Operand Hook → Value
  | .literal v => v
  | .path names =>
      if record.isContainer then (Path.resolve record names .undefined).value else .undefined
  | .computed _ => .undefined

theorem Operand.valueIn_folded (record : Value) (operand : Operand Hook) :
    (operand.valueIn record.folded).folded = (operand.valueIn record).folded := by
  cases operand with
  | literal v => rfl
  | computed hook => rfl
  | path names =>
      rw [valueIn, valueIn, Value.isContainer_folded]
      cases record.isContainer with
      | true => exact (Path.resolve_folded record names .undefined).1
      | false => rfl

namespace Criterion

/-- No function of the caller is involved in the criterion. -/
structure CallsNothing (criterion : Criterion Hook) : Prop where
  test : ∃ op, criterion.test = .operator op
  operand : ∀ hook, criterion.operand ≠ .computed hook
  criterionMapper : criterion.criterionMapper = none
  valueMapper : criterion.valueMapper = none

theorem settle_fst {criterion : Criterion Hook} {attempt : Attempt Hook CriterionResult}
    {w : Workspace Hook} {result : CriterionResult} (h : (attempt w).1 = .ok result) :
    (criterion.settle attempt w).1 = result := by
  unfold settle
  rw [bind_apply]
  have hrun : (attempt.run w).1 = .ok result := h
  rw [hrun]
  rfl

theorem testRecord_fst {criterion : Criterion Hook} (h : criterion.valueMapper = none)
    (env : Environment Hook) (record operand : Value) (w : Workspace Hook) :
    let found := Path.resolve record criterion.path criterion.default
    (criterion.testRecord env record operand w).1 =
      .ok (criterion.judge env.now operand found.branched (criterion.form found.value)) := by
  intro found
  unfold testRecord
  rw [h, ← normalizeFor_fst criterion found.value w]
  rfl

namespace CallsNothing

variable {criterion : Criterion Hook} (h : criterion.CallsNothing) (env : Environment Hook)
  (record : Value) (w : Workspace Hook)
include h

theorem operandFor_eq :
    criterion.operandFor env record = pure (criterion.operand.valueIn record) := by
  unfold operandFor
  cases hoperand : criterion.operand with
  | literal v => rfl
  | path names => rfl
  | computed hook => exact absurd hoperand (h.operand hook)

theorem evaluate_fst :
    let found := Path.resolve record criterion.path criterion.default
    (criterion.evaluate env record w).1 =
      criterion.judge env.now (criterion.form (criterion.operand.valueIn record)) found.branched
        (criterion.form found.value) := by
  intro found
  rcases h.test with ⟨op, hop⟩
  refine settle_fst ?_
  unfold withOperand
  rw [h.operandFor_eq, hop, h.criterionMapper, ← normalizeFor_fst criterion _ w]
  exact testRecord_fst h.valueMapper env record _ _

end CallsNothing

/--
A criterion that folds, and involves no function of the caller, has one result for a record
and for what any normalizer makes of the record, whatever the workspaces are.
-/
theorem evaluate_normalized {criterion : Criterion Hook} (h : criterion.CallsNothing)
    (hnormalize : criterion.normalize = true) (env : Environment Hook) (record : Value)
    (normalizer : Normalizer) (w other : Workspace Hook) :
    (criterion.evaluate env (Normalizer.value record normalizer).1 other).1 =
      (criterion.evaluate env record w).1 := by
  have hform : ∀ v : Value, criterion.form v = v.folded := by
    intro v
    rw [form, if_pos hnormalize]
  rcases Path.resolve_folded record criterion.path criterion.default with ⟨hvalue, hbranched⟩
  rw [Normalizer.value_fst, h.evaluate_fst, h.evaluate_fst, hform, hform, hform, hform,
    Operand.valueIn_folded, hvalue, hbranched]

theorem evaluate_normalized_of_spellings :
    let criterion : Criterion Empty :=
      { ofTest (.operator (.set (.ofArray .includesAny))) .undefined with
        operand := .path ["wanted"], path := ["orders", "tags"] }
    let env : Environment Empty := ⟨⟨nofun, nofun, nofun, nofun⟩, ⟨0, 0⟩, .undefined⟩
    let record : Value := .object [
      ("orders", .array [.object [("tags", .set [.string "A b", .string " a--B"])], .object []]),
      ("wanted", .array [.string "A B"])]
    let folded : Value := .object [
      ("orders", .array [.object [("tags", .set [.string "a-b"])], .object []]),
      ("wanted", .array [.string "a-b"])]
    criterion.CallsNothing ∧ criterion.normalize = true ∧
      (Normalizer.value record .forgetful).1 = folded ∧
      ∀ w : Workspace Empty,
        (criterion.evaluate env folded w).1 = (criterion.evaluate env record w).1 := by
  intro criterion env record folded
  have hcalls : criterion.CallsNothing := ⟨⟨_, rfl⟩, nofun, rfl, rfl⟩
  have hfolded : (Normalizer.value record .forgetful).1 = folded := by
    have hspaced : foldText "A b" = "a-b" := by decide +kernel
    have hdashed : foldText " a--B" = "a-b" := by decide +kernel
    have hwanted : foldText "A B" = "a-b" := by decide +kernel
    rw [Normalizer.value_fst]
    simp only [record, Value.folded, Value.foldedFields, Value.foldedField, Value.foldedItems,
      hspaced, hdashed, hwanted]
    rfl
  refine ⟨hcalls, rfl, hfolded, ?_⟩
  intro w
  rw [← hfolded]
  exact evaluate_normalized hcalls rfl env record .forgetful w w

end Criterion
end RecordFilter
