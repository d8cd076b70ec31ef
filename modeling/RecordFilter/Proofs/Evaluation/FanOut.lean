import RecordFilter.Proofs.Evaluation.Subjects

/-!
# Arrays of records

A path that is followed in an array is followed in every item.  What is found in an item on its
own is what the item contributes when the walk has branched above it: an array at the end of the
path is opened either way, and a name that is missing gives nothing to test.

The main statement is that a criterion passes on an array exactly if it passes on one of its
items.
-/

namespace RecordFilter

variable {Hook : Type}

/-! ## What is gathered -/

namespace Path

def Trail.gathered : Trail → List Value
  | .reached v => v.array?.getD [v]
  | .missing => []
  | .forked items rest => collect (.array items) rest

theorem collect_eq_gathered (v : Value) (path : Path) :
    collect v path = (trail v path).gathered := by
  induction path generalizing v with
  | nil => exact collect_nil v
  | cons name more ih =>
      by_cases harray : ∃ items, v = .array items
      · rcases harray with ⟨items, rfl⟩
        rfl
      · have hv : ∀ items, v ≠ .array items := not_exists.mp harray
        cases hget : v.get? name with
        | some child => rw [collect_of_get?_some hget, trail_of_get?_some hget, ih]
        | none =>
            rw [collect_of_get?_none hv hget, trail_of_get?_none hv hget]
            rfl

theorem gathered_array (items : List Value) {path : Path} (h : path ≠ []) :
    (trail (.array items) path).gathered =
      items.flatMap fun item => (trail item path).gathered := by
  cases path with
  | nil => exact absurd rfl h
  | cons name more =>
      show collect (.array items) (name :: more) = _
      rw [collect_array]
      simp only [collect_eq_gathered]

end Path

/-! ## Criteria that test what is gathered -/

def Operator.RejectsUndefined (op : Operator) : Prop :=
  ∀ now operand, op.holds now .undefined operand = false

theorem Operator.rejectsUndefined_of_type {op : Operator}
    (h : op.type = .number ∨ op.type = .date ∨ op.type = .string) : op.RejectsUndefined := by
  intro now operand
  cases op with
  | number op => rfl
  | date op => rfl
  | string op => rfl
  | _ => simp [type] at h

namespace Criterion

/-- A test of numbers, dates or texts, item by item, of what a path leads to. -/
structure FansOut (criterion : Criterion Hook) : Prop where
  test : ∃ op, criterion.test = .operator op ∧
    (op.type = .number ∨ op.type = .date ∨ op.type = .string)
  operand : ∃ v, criterion.operand = .literal v
  path : criterion.path ≠ []
  default : criterion.default = .undefined
  matchInArray : criterion.matchInArray = true
  criterionMapper : criterion.criterionMapper = none
  valueMapper : criterion.valueMapper = none

theorem subjects_of_matchInArray {criterion : Criterion Hook} (h : criterion.matchInArray = true)
    (branched : Bool) (v : Value) : criterion.subjects branched v = v.array?.getD [v] := by
  cases v with
  | array items => exact criterion.subjects_array h branched items
  | _ => rfl

namespace FansOut

variable {criterion : Criterion Hook} (h : criterion.FansOut)
include h

theorem callsNothing : criterion.CallsNothing := by
  rcases h.test with ⟨op, hop, _⟩
  rcases h.operand with ⟨v, hv⟩
  constructor
  · exact ⟨op, hop⟩
  · intro hook hcomputed
    rw [hv] at hcomputed
    cases hcomputed
  · exact h.criterionMapper
  · exact h.valueMapper

/-- The criterion passes if its operator holds of something that is gathered. -/
theorem evaluate_passed_iff {op : Operator} (hop : criterion.test = .operator op)
    (hrejects : op.RejectsUndefined) {operand : Value}
    (hoperand : criterion.operand = .literal operand) (env : Environment Hook) (record : Value)
    (w : Workspace Hook) :
    (criterion.evaluate env record w).1.passed = true ↔
      ∃ v ∈ (Path.trail record criterion.path).gathered,
        op.holds env.now (criterion.form v) (criterion.form operand) = true := by
  have hpassed := h.callsNothing.evaluate_passed hop env record w
  simp only [subjects_form, Path.resolve_eq_resolved, h.default, hoperand,
    Operand.valueIn] at hpassed
  rw [hpassed, subjects_of_matchInArray h.matchInArray]
  cases Path.trail record criterion.path with
  | reached v =>
      simp only [Path.Trail.resolved, Path.Trail.gathered, List.any_map, List.any_eq_true,
        Function.comp_apply]
  | missing =>
      have hnot := hrejects env.now (criterion.form operand)
      simp [Path.Trail.resolved, Path.Trail.gathered, Value.array?, form_undefined, hnot]
  | forked items rest =>
      simp only [Path.Trail.resolved, Path.Trail.gathered, Value.array?, Option.getD_some,
        List.any_map, List.any_eq_true, Function.comp_apply]

theorem evaluate_array_passed_iff (env : Environment Hook) (items : List Value)
    (w : Workspace Hook) :
    (criterion.evaluate env (.array items) w).1.passed = true ↔
      ∃ item ∈ items, (criterion.evaluate env item w).1.passed = true := by
  rcases h.test with ⟨op, hop, htype⟩
  rcases h.operand with ⟨operand, hoperand⟩
  have hrejects := Operator.rejectsUndefined_of_type htype
  simp only [h.evaluate_passed_iff hop hrejects hoperand, Path.gathered_array items h.path,
    List.mem_flatMap]
  constructor
  · rintro ⟨v, ⟨item, hitem, hv⟩, hholds⟩
    exact ⟨item, hitem, v, hv, hholds⟩
  · rintro ⟨item, hitem, v, hv, hholds⟩
    exact ⟨v, ⟨item, hitem, hv⟩, hholds⟩

end FansOut

end Criterion

/-- Such a criterion passes on an array of records exactly if it passes on one of them. -/
theorem array_passes_iff_exists_item {criterion : Criterion Hook} (h : criterion.FansOut)
    (env : Environment Hook) (engine : Engine Hook) (items : List Value) :
    let passes (record : Value) : Prop :=
      (Engine.evaluate env record (.node (.criterion criterion)) engine).1.map Outcome.passed =
        .ok true
    passes (.array items) ↔ ∃ item ∈ items, passes item := by
  intro passes
  simp only [passes, Engine.evaluate_criterion_passed, Except.ok.injEq]
  exact h.evaluate_array_passed_iff env items engine.workspace

theorem array_passes_iff_exists_item_of_nested :
    let env : Environment Empty := ⟨⟨nofun, nofun, nofun, nofun⟩, ⟨0, 0⟩, .undefined⟩
    let engine : Engine Empty := .start .default
    let criterion : Criterion Empty :=
      .ofLiteral (.string .contains) ["tags"] (.string "Rust") .undefined
    let tagged (v : Value) : Value := .object [("tags", v)]
    let items : List Value :=
      [.null, tagged (.array []), .array [.object [], tagged (.array [.null, .string "RUST"])]]
    let passes (record : Value) : Prop :=
      (Engine.evaluate env record (.node (.criterion criterion)) engine).1.map Outcome.passed =
        .ok true
    criterion.FansOut ∧ passes (.array items) := by
  intro env engine criterion tagged items passes
  have hfans : criterion.FansOut :=
    ⟨⟨_, rfl, .inr (.inr rfl)⟩, ⟨_, rfl⟩, by decide, rfl, rfl, rfl, rfl⟩
  have hitem : passes (tagged (.array [.null, .string "RUST"])) := by
    have hholds : StringOperator.contains.holds (Value.string "RUST").folded
        (Value.string "Rust").folded = true := by
      decide +kernel
    refine (Engine.evaluate_criterion_passed env _ _ engine).trans (congrArg Except.ok ?_)
    apply (hfans.evaluate_passed_iff rfl (fun _ _ => rfl) rfl env _ engine.workspace).mpr
    exact ⟨.string "RUST", List.mem_cons_of_mem _ List.mem_cons_self, hholds⟩
  have hlaw := array_passes_iff_exists_item hfans env engine
  have hinner : passes (.array [.object [], tagged (.array [.null, .string "RUST"])]) :=
    (hlaw _).mpr ⟨_, List.mem_cons_of_mem _ List.mem_cons_self, hitem⟩
  refine ⟨hfans, (hlaw items).mpr ⟨_, ?_, hinner⟩⟩
  exact List.mem_cons_of_mem _ (List.mem_cons_of_mem _ List.mem_cons_self)

end RecordFilter
