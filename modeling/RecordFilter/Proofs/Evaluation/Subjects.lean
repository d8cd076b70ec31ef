import RecordFilter.Proofs.Evaluation.Folded

/-!
# The values that a criterion tests

A criterion tests what its path leads to: the value itself, or the items of an array one by
one.  It passes if its operator holds of one of them.
-/

namespace RecordFilter

variable {Hook : Type}

namespace Criterion

/-- The values that are tested, one of which has to pass. -/
def subjects (criterion : Criterion Hook) (branched : Bool) (v : Value) : List Value :=
  match criterion.itemsToTest branched v with
  | some (items, _) => items
  | none => [v]

theorem judge_passed (criterion : Criterion Hook) (now : Instant) (operand : Value)
    (branched : Bool) (v : Value) :
    (criterion.judge now operand branched v).passed =
      (criterion.subjects branched v).any fun subject =>
        criterion.test.holds now subject operand := by
  unfold judge subjects
  cases criterion.itemsToTest branched v with
  | none => simp
  | some items => rfl

theorem subjects_of_ne_array {v : Value} (h : ∀ items, v ≠ .array items)
    (criterion : Criterion Hook) (branched : Bool) : criterion.subjects branched v = [v] := by
  unfold subjects itemsToTest
  cases v with
  | array items => exact absurd rfl (h items)
  | _ => rfl

theorem subjects_array (criterion : Criterion Hook) (h : criterion.matchInArray = true)
    (branched : Bool) (items : List Value) :
    criterion.subjects branched (.array items) = items := by
  unfold subjects itemsToTest
  cases branched <;> simp [h]

theorem mem_subjects {criterion : Criterion Hook} {branched : Bool} {v subject : Value}
    (h : subject ∈ criterion.subjects branched v) :
    subject = v ∨ ∃ items, v = .array items ∧ subject ∈ items := by
  cases v with
  | array items =>
      unfold subjects itemsToTest at h
      cases branched <;> cases hitems : criterion.matchInArray <;> simp [hitems] at h
      · exact .inl h
      · exact .inr ⟨items, rfl, h⟩
      · exact .inr ⟨items, rfl, h⟩
      · exact .inr ⟨items, rfl, h⟩
  | _ => exact .inl (List.mem_singleton.mp h)

theorem form_of_mem_subjects {criterion : Criterion Hook} {branched : Bool} {v subject : Value}
    (h : subject ∈ criterion.subjects branched (criterion.form v)) :
    criterion.form subject = subject := by
  cases hnormalize : criterion.normalize with
  | false => exact if_neg (Bool.eq_false_iff.mp hnormalize)
  | true =>
      have hform : ∀ u, criterion.form u = u.folded := fun u => if_pos hnormalize
      rw [hform] at h ⊢
      rcases mem_subjects h with rfl | ⟨items, hv, hmem⟩
      · exact Value.folded_folded v
      · cases v with
        | array members =>
            rw [Value.folded_array] at hv
            cases hv
            rcases List.mem_map.mp hmem with ⟨member, -, rfl⟩
            exact Value.folded_folded member
        | _ => cases hv

theorem CallsNothing.evaluate_passed {criterion : Criterion Hook} (h : criterion.CallsNothing)
    {op : Operator} (hop : criterion.test = .operator op) (env : Environment Hook)
    (record : Value) (w : Workspace Hook) :
    let found := Path.resolve record criterion.path criterion.default
    (criterion.evaluate env record w).1.passed =
      (criterion.subjects found.branched (criterion.form found.value)).any fun subject =>
        op.holds env.now subject (criterion.form (criterion.operand.valueIn record)) := by
  intro found
  rw [h.evaluate_fst env record w, judge_passed, hop]
  rfl

theorem form_ne_array {v : Value} (h : ∀ items, v ≠ .array items) (criterion : Criterion Hook)
    (items : List Value) : criterion.form v ≠ .array items := by
  unfold form
  split
  · exact Path.folded_ne_array h items
  · exact h items

theorem subjects_folded (criterion : Criterion Hook) (branched : Bool) (v : Value) :
    criterion.subjects branched v.folded = (criterion.subjects branched v).map Value.folded := by
  by_cases harray : ∃ items, v = .array items
  · rcases harray with ⟨items, rfl⟩
    rw [Value.folded_array]
    unfold subjects itemsToTest
    cases branched <;> cases criterion.matchInArray <;>
      simp only [Bool.false_eq_true, if_true, if_false, List.map_singleton, Value.folded_array]
  · have hv : ∀ items, v ≠ .array items := not_exists.mp harray
    rw [subjects_of_ne_array (Path.folded_ne_array hv), subjects_of_ne_array hv,
      List.map_singleton]

/-- It makes no difference whether a value or what is tested of it is brought to its form. -/
theorem subjects_form (criterion : Criterion Hook) (branched : Bool) (v : Value) :
    criterion.subjects branched (criterion.form v) =
      (criterion.subjects branched v).map criterion.form := by
  cases hnormalize : criterion.normalize with
  | true =>
      have hform : criterion.form = Value.folded := funext fun _ => if_pos hnormalize
      rw [hform]
      exact criterion.subjects_folded branched v
  | false =>
      have hform : criterion.form = id := funext fun _ => if_neg (Bool.eq_false_iff.mp hnormalize)
      rw [hform, List.map_id]
      rfl

theorem CallsNothing.evaluate_passed_of_ne_array {criterion : Criterion Hook}
    (h : criterion.CallsNothing) {op : Operator} (hop : criterion.test = .operator op)
    (env : Environment Hook) {record v : Value}
    (hfound : (Path.resolve record criterion.path criterion.default).value = v)
    (hv : ∀ items, v ≠ .array items) (w : Workspace Hook) :
    (criterion.evaluate env record w).1.passed =
      op.holds env.now (criterion.form v) (criterion.form (criterion.operand.valueIn record)) := by
  have hpassed := h.evaluate_passed hop env record w
  rw [hpassed, hfound, subjects_of_ne_array (form_ne_array hv criterion)]
  exact Bool.or_false _

end Criterion

theorem Engine.evaluate_criterion_passed (env : Environment Hook) (record : Value)
    (criterion : Criterion Hook) (engine : Engine Hook) :
    (evaluate env record (.node (.criterion criterion)) engine).1.map Outcome.passed =
      .ok (criterion.evaluate env record engine.workspace).1.passed := by
  rw [evaluate_criterion]
  rfl

end RecordFilter
