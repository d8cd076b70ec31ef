import Mathlib.Data.List.Perm.Basic
import RecordFilter.Evaluation.Plan
import RecordFilter.Proofs.Evaluation.Uniform

/-!
# What is evaluated and what is listed

A filter leaves its heavy criteria out when it needs all of its criteria and a light
one fails; a group leaves out the filters after the first one that fails when it needs
all of them.  What is not left out is evaluated once, and listed in the order of the
plan whatever the order of evaluation.

The main statement describes the results of a group in full, and the calls that are
made on the way, in terms of the criteria evaluated on their own.
-/

namespace RecordFilter

variable {Hook : Type}

/-! ## Filters -/

namespace FilterPlan

def light (plan : FilterPlan Hook) : List (Criterion Hook) :=
  plan.criteria.filter (!·.heavy)

def heavy (plan : FilterPlan Hook) : List (Criterion Hook) :=
  plan.criteria.filter (·.heavy)

def holds (verdict : Criterion Hook → Bool) (plan : FilterPlan Hook) : Bool :=
  plan.connective.combine (plan.criteria.map verdict)

/-- Whether the heavy criteria are left out, as some light one fails. -/
def isCutShort (verdict : Criterion Hook → Bool) (plan : FilterPlan Hook) : Bool :=
  plan.connective == .all && plan.isMixed && plan.light.any fun criterion => !verdict criterion

def listed (verdict : Criterion Hook → Bool) (plan : FilterPlan Hook) : List (Criterion Hook) :=
  if plan.isCutShort verdict then plan.light else plan.criteria

/-- The criteria that are evaluated, in the order in which this happens. -/
def evaluated (verdict : Criterion Hook → Bool) (plan : FilterPlan Hook) :
    List (Criterion Hook) :=
  if plan.isCutShort verdict then plan.light
  else if plan.connective = .all ∧ plan.isMixed then plan.light ++ plan.heavy
  else plan.criteria

theorem perm_evaluated_listed (verdict : Criterion Hook → Bool) (plan : FilterPlan Hook) :
    (plan.evaluated verdict).Perm (plan.listed verdict) := by
  unfold evaluated listed
  split
  · exact List.Perm.refl _
  · split
    · have hperm := List.filter_append_perm (fun c : Criterion Hook => !c.heavy) plan.criteria
      simpa only [light, heavy, Bool.not_not] using hperm
    · exact List.Perm.refl _

def report (result : Criterion Hook → CriterionResult) (plan : FilterPlan Hook) : FilterResult :=
  if plan.isCutShort fun criterion => (result criterion).passed then
    .ofLightFailure (plan.light.map result) plan.heavy.length
  else .ofResults plan.connective (plan.criteria.map result)

theorem inOrder_map (result : Criterion Hook → CriterionResult) (criteria : List (Criterion Hook)) :
    inOrder criteria ((criteria.filter (!·.heavy)).map result)
      ((criteria.filter (·.heavy)).map result) = criteria.map result := by
  induction criteria with
  | nil => rfl
  | cons criterion rest ih =>
      cases hheavy : criterion.heavy <;> simp [inOrder, hheavy, ih]

theorem countP_eq_zero_iff_isCutShort {plan : FilterPlan Hook} (hall : plan.connective = .all)
    (hmixed : plan.isMixed = true) (result : Criterion Hook → CriterionResult) :
    (plan.light.map result).countP (!·.passed) = 0 ↔
      plan.isCutShort (fun criterion => (result criterion).passed) = false := by
  simp [isCutShort, hall, hmixed, List.countP_eq_zero]

section Evaluation

variable {visit : Visit Hook}
  {result : Criterion Hook → CriterionResult} {calls : Criterion Hook → List Hook}

theorem evaluateLightFirst_yields
    (h : ∀ c : Criterion Hook, (visit c).Yields (result c) (calls c))
    {plan : FilterPlan Hook} (hall : plan.connective = .all) (hmixed : plan.isMixed = true) :
    (plan.evaluateLightFirst visit).Yields (plan.report result)
      ((plan.evaluated fun c => (result c).passed).flatMap calls) := by
  have hlight := Work.Yields.mapM h plan.light
  have hcut := countP_eq_zero_iff_isCutShort hall hmixed result
  unfold evaluateLightFirst
  cases hshort : plan.isCutShort (fun c => (result c).passed) with
  | true =>
      have hcalls : (plan.evaluated fun c => (result c).passed).flatMap calls =
          plan.light.flatMap calls ++ ([] ++ []) := by
        simp [evaluated, hshort]
      have hfailures : (plan.light.map result).countP (!·.passed) ≠ 0 := by
        intro hzero
        rw [hcut.mp hzero] at hshort
        cases hshort
      rw [hcalls, report, if_pos hshort]
      refine hlight.bind ?_
      simp only [if_neg hfailures]
      exact (Work.yields_log .debug _).bind (Work.yields_pure _)
  | false =>
      have hcalls : (plan.evaluated fun c => (result c).passed).flatMap calls =
          plan.light.flatMap calls ++ plan.heavy.flatMap calls := by
        simp [evaluated, hshort, hall, hmixed]
      have horder := inOrder_map result plan.criteria
      rw [hcalls, report, hshort, if_neg Bool.false_ne_true, ← horder]
      refine hlight.bind ?_
      simp only [if_pos (hcut.mpr hshort)]
      exact (Work.Yields.mapM h plan.heavy).bind_pure _

theorem evaluate_yields
    (h : ∀ c : Criterion Hook, (visit c).Yields (result c) (calls c))
    (plan : FilterPlan Hook) :
    (plan.evaluate visit).Yields (plan.report result)
      ((plan.evaluated fun c => (result c).passed).flatMap calls) := by
  unfold evaluate
  split
  · next hmixed => exact evaluateLightFirst_yields h hmixed.1 hmixed.2
  · next hnot =>
      have hshort : plan.isCutShort (fun c => (result c).passed) = false := by
        cases hconnective : plan.connective <;> simp_all [isCutShort]
      have hcalls : (plan.evaluated fun c => (result c).passed).flatMap calls =
          plan.criteria.flatMap calls := by
        simp only [evaluated, hshort, if_neg hnot, Bool.false_eq_true, if_false]
      rw [hcalls, report, hshort, if_neg Bool.false_ne_true]
      exact (Work.Yields.mapM h plan.criteria).bind_pure _

end Evaluation

/-! ## Results of filters -/

section Report

variable (result : Criterion Hook → CriterionResult) (plan : FilterPlan Hook)

theorem connective_of_isCutShort {verdict : Criterion Hook → Bool} {plan : FilterPlan Hook}
    (h : plan.isCutShort verdict = true) : plan.connective = .all := by
  simp only [isCutShort, Bool.and_eq_true, beq_iff_eq] at h
  exact h.1.1

theorem exists_fails_of_isCutShort {verdict : Criterion Hook → Bool} {plan : FilterPlan Hook}
    (h : plan.isCutShort verdict = true) : ∃ c ∈ plan.light, verdict c = false := by
  simp only [isCutShort, Bool.and_eq_true, List.any_eq_true, Bool.not_eq_true'] at h
  exact h.2

theorem report_results :
    (plan.report result).results = (plan.listed fun c => (result c).passed).map result := by
  unfold report listed
  split <;> rfl

theorem report_connective : (plan.report result).connective = plan.connective := by
  unfold report
  split
  · next hshort => exact (connective_of_isCutShort hshort).symm
  · rfl

theorem holds_of_isCutShort {verdict : Criterion Hook → Bool} {plan : FilterPlan Hook}
    (h : plan.isCutShort verdict = true) : plan.holds verdict = false := by
  rcases exists_fails_of_isCutShort h with ⟨c, hlight, hfails⟩
  have hmem : c ∈ plan.criteria := (List.mem_filter.mp hlight).1
  have hverdict : verdict c ∈ plan.criteria.map verdict := List.mem_map_of_mem hmem
  rw [holds, connective_of_isCutShort h, Connective.combine, List.all_eq_false]
  exact ⟨verdict c, hverdict, by simp [hfails]⟩

theorem report_passed :
    (plan.report result).passed = plan.holds fun c => (result c).passed := by
  unfold report
  split
  · next hshort =>
      rw [holds_of_isCutShort hshort]
      rfl
  · simp [FilterResult.ofResults, holds, List.map_map, Function.comp_def]

theorem report_passed_eq_combine :
    (plan.report result).passed =
      (plan.report result).connective.combine ((plan.report result).results.map (·.passed)) := by
  unfold report
  split
  · next hshort =>
      rcases exists_fails_of_isCutShort hshort with ⟨c, hlight, hfails⟩
      have hpassed : (result c).passed ∈ (plan.light.map result).map (·.passed) :=
        List.mem_map_of_mem (List.mem_map_of_mem hlight)
      refine (List.all_eq_false.mpr ⟨(result c).passed, hpassed, ?_⟩).symm
      simp [hfails]
  · rfl

end Report

end FilterPlan

/-! ## Groups -/

/-- The members up to the first one without a property, which is included. -/
def upToFailure {α : Type} (p : α → Bool) (members : List α) : List α :=
  members.takeWhile p ++ (members.dropWhile p).take 1

theorem upToFailure_cons {α : Type} (p : α → Bool) (x : α) (rest : List α) :
    upToFailure p (x :: rest) = x :: (if p x then upToFailure p rest else []) := by
  cases h : p x <;> simp [upToFailure, h]

theorem all_upToFailure {α : Type} (p : α → Bool) (members : List α) :
    (upToFailure p members).all p = members.all p := by
  induction members with
  | nil => rfl
  | cons x rest ih =>
      rw [upToFailure_cons]
      cases h : p x <;> simp [h, ih]

namespace GroupPlan

def holds (verdict : Criterion Hook → Bool) (plan : GroupPlan Hook) : Bool :=
  plan.active.isEmpty || plan.connective.combine (plan.active.map (·.holds verdict))

def listed (verdict : Criterion Hook → Bool) (plan : GroupPlan Hook) : List (FilterPlan Hook) :=
  match plan.connective with
  | .all => upToFailure (·.holds verdict) plan.active
  | .any => plan.active

theorem listed_eq_nil_iff (plan : GroupPlan Hook) (verdict : Criterion Hook → Bool) :
    plan.listed verdict = [] ↔ plan.active = [] := by
  unfold listed
  cases plan.connective with
  | all =>
      cases plan.active with
      | nil => simp [upToFailure]
      | cons filter rest => simp only [upToFailure_cons, reduceCtorEq]
  | any => exact Iff.rfl

def report (result : Criterion Hook → CriterionResult) (plan : GroupPlan Hook) : GroupResult :=
  let results := (plan.listed fun c => (result c).passed).map (·.report result)
  if plan.active.isEmpty then .ofNothing plan.connective
  else
    match plan.connective with
    | .all =>
        if results.all (·.passed) then .ofResults .all results
        else .ofFailure results plan.active.length
    | .any => .ofResults .any results

section Evaluation

variable {visit : Visit Hook}
  {result : Criterion Hook → CriterionResult} {calls : Criterion Hook → List Hook}

theorem evaluateUntilFailure_yields
    (h : ∀ c : Criterion Hook, (visit c).Yields (result c) (calls c))
    (filters : List (FilterPlan Hook)) :
    let reached := upToFailure (·.holds fun c => (result c).passed) filters
    (evaluateUntilFailure visit filters).Yields (reached.map (·.report result))
      (reached.flatMap fun filter =>
        (filter.evaluated fun c => (result c).passed).flatMap calls) := by
  induction filters with
  | nil => exact Work.yields_pure []
  | cons filter rest ih =>
      have hfilter := FilterPlan.evaluate_yields h filter
      have hpassed := FilterPlan.report_passed result filter
      simp only [upToFailure_cons, List.map_cons, List.flatMap_cons]
      unfold evaluateUntilFailure
      refine hfilter.bind ?_
      rw [hpassed]
      cases hholds : filter.holds fun c => (result c).passed with
      | true =>
          exact Work.Yields.bind_pure ih fun results => filter.report result :: results
      | false => exact Work.yields_pure _

theorem evaluateAll_yields
    (h : ∀ c : Criterion Hook, (visit c).Yields (result c) (calls c))
    (filters : List (FilterPlan Hook)) :
    let reached := upToFailure (·.holds fun c => (result c).passed) filters
    let results := reached.map (·.report result)
    (evaluateAll visit filters).Yields
      (if results.all (·.passed) then .ofResults .all results
        else .ofFailure results filters.length)
      (reached.flatMap fun filter =>
        (filter.evaluated fun c => (result c).passed).flatMap calls) := by
  intro reached results
  have hfilters := evaluateUntilFailure_yields h filters
  unfold evaluateAll
  rw [← List.append_nil (reached.flatMap _)]
  refine hfilters.bind ?_
  split
  · exact Work.yields_pure _
  · split
    · exact (Work.yields_log .debug _).bind_pure _
    · exact Work.yields_pure _

/-- The evaluation of a group gives its report and makes the calls of what it lists. -/
theorem evaluateBy_yields
    (h : ∀ c : Criterion Hook, (visit c).Yields (result c) (calls c))
    (plan : GroupPlan Hook) :
    (plan.evaluateBy visit).Yields (plan.report result)
      ((plan.listed fun c => (result c).passed).flatMap fun filter =>
        (filter.evaluated fun c => (result c).passed).flatMap calls) := by
  unfold evaluateBy report
  split
  · next hempty =>
      rw [(plan.listed_eq_nil_iff _).mpr (List.isEmpty_iff.mp hempty)]
      exact Work.yields_pure _
  · cases hconnective : plan.connective with
    | all =>
        simp only [listed, hconnective]
        exact evaluateAll_yields h plan.active
    | any =>
        simp only [listed, hconnective]
        exact (Work.Yields.mapM (FilterPlan.evaluate_yields h) plan.active).bind_pure _

end Evaluation

theorem evaluate_fst (env : Environment Hook) (record : Value) (alone : Workspace Hook)
    (plan : GroupPlan Hook) (w : Workspace Hook) :
    (plan.evaluate env record w).1 = plan.report fun c => (c.evaluate env record alone).1 :=
  (evaluateBy_yields (Criterion.evaluate_yields env record alone) plan w).1

/-! ## Results of groups -/

section Report

variable (result : Criterion Hook → CriterionResult) (plan : GroupPlan Hook)

theorem report_results :
    (plan.report result).results =
      (plan.listed fun c => (result c).passed).map (·.report result) := by
  unfold report
  split
  · next hempty =>
      rw [List.isEmpty_iff] at hempty
      rw [(plan.listed_eq_nil_iff _).mpr hempty]
      rfl
  · cases hconnective : plan.connective with
    | all =>
        simp only
        split <;> rfl
    | any => rfl

theorem report_connective : (plan.report result).connective = plan.connective := by
  unfold report
  split
  · rfl
  · cases hconnective : plan.connective with
    | all =>
        simp only
        split <;> rfl
    | any => rfl

theorem report_passed_of_active (hactive : plan.active ≠ []) :
    (plan.report result).passed =
      plan.connective.combine
        ((plan.listed fun c => (result c).passed).map fun filter => (filter.report result).passed) := by
  unfold report
  rw [if_neg (by rwa [List.isEmpty_iff])]
  cases hconnective : plan.connective with
  | all =>
      simp only
      split
      · exact congrArg (Connective.combine .all) (List.map_map ..)
      · next hfails =>
          rw [Bool.not_eq_true, List.all_map] at hfails
          rw [Connective.combine, List.all_map]
          exact hfails.symm
  | any => exact congrArg (Connective.combine .any) (List.map_map ..)

/-- What a group lists joins to what all its filters together join to. -/
theorem combine_listed (verdict : Criterion Hook → Bool) :
    plan.connective.combine ((plan.listed verdict).map (·.holds verdict)) =
      plan.connective.combine (plan.active.map (·.holds verdict)) := by
  unfold listed
  cases plan.connective with
  | all =>
      rw [Connective.combine, Connective.combine, List.all_map, List.all_map]
      exact all_upToFailure _ plan.active
  | any => rfl

theorem report_passed :
    (plan.report result).passed = plan.holds fun c => (result c).passed := by
  unfold holds
  by_cases hactive : plan.active = []
  · simp [report, hactive, GroupResult.ofNothing]
  · rw [report_passed_of_active result plan hactive, List.isEmpty_eq_false_iff.mpr hactive,
      Bool.false_or, ← plan.combine_listed]
    simp only [FilterPlan.report_passed]

theorem report_passed_eq_combine :
    (plan.report result).passed = ((plan.report result).results.isEmpty ||
      (plan.report result).connective.combine ((plan.report result).results.map (·.passed))) := by
  rw [report_connective, report_results, List.map_map]
  by_cases hactive : plan.active = []
  · rw [(plan.listed_eq_nil_iff _).mpr hactive]
    simp [report, hactive, GroupResult.ofNothing]
  · have hlisted := mt (plan.listed_eq_nil_iff fun c => (result c).passed).mp hactive
    rw [report_passed_of_active result plan hactive,
      List.isEmpty_eq_false_iff.mpr (by simpa using hlisted)]
    rfl

end Report

/-! ## The listing of a group -/

/--
A result lists the filters of a group that are reached, each with the verdict of the
whole filter and the results of its criteria that are evaluated, and the verdicts join
those that are listed under them.
-/
structure Lists (result : Criterion Hook → CriterionResult) (plan : GroupPlan Hook)
    (r : GroupResult) : Prop where
  connective : r.connective = plan.connective
  connectives : r.results.map (·.connective) =
    (plan.listed fun c => (result c).passed).map (·.connective)
  results : r.results.map (·.results) =
    (plan.listed fun c => (result c).passed).map fun filter =>
      (filter.listed fun c => (result c).passed).map result
  verdicts : r.results.map (·.passed) =
    (plan.listed fun c => (result c).passed).map (·.holds fun c => (result c).passed)
  joined : r.results.map (·.passed) =
    r.results.map fun filter => filter.connective.combine (filter.results.map (·.passed))
  passed : r.passed = (r.results.isEmpty || r.connective.combine (r.results.map (·.passed)))

theorem report_lists (result : Criterion Hook → CriterionResult) (plan : GroupPlan Hook) :
    plan.Lists result (plan.report result) where
  connective := report_connective result plan
  connectives := by
    rw [report_results, List.map_map]
    exact List.map_congr_left fun filter _ => FilterPlan.report_connective result filter
  results := by
    rw [report_results, List.map_map]
    exact List.map_congr_left fun filter _ => FilterPlan.report_results result filter
  verdicts := by
    rw [report_results, List.map_map]
    exact List.map_congr_left fun filter _ => FilterPlan.report_passed result filter
  joined := by
    rw [report_results, List.map_map, List.map_map]
    exact List.map_congr_left fun filter _ => FilterPlan.report_passed_eq_combine result filter
  passed := report_passed_eq_combine result plan

def visited (verdict : Criterion Hook → Bool) (plan : GroupPlan Hook) : List (Criterion Hook) :=
  (plan.listed verdict).flatMap (·.evaluated verdict)

theorem perm_visited (verdict : Criterion Hook → Bool) (plan : GroupPlan Hook) :
    (plan.visited verdict).Perm ((plan.listed verdict).flatMap (·.listed verdict)) :=
  List.Perm.flatMap_left _ fun filter _ => filter.perm_evaluated_listed verdict

/-- Leave a mark, then evaluate a criterion. -/
def marking (mark : Criterion Hook → Hook) (visit : Visit Hook) : Visit Hook := fun criterion => do
  Work.record (.call (mark criterion))
  visit criterion

theorem marking_yields {visit : Visit Hook} {result : Criterion Hook → CriterionResult}
    {calls : Criterion Hook → List Hook} (mark : Criterion Hook → Hook)
    (h : ∀ c : Criterion Hook, (visit c).Yields (result c) (calls c)) (c : Criterion Hook) :
    (marking mark visit c).Yields (result c) (mark c :: calls c) := by
  have hmark : Work.Yields (Work.record (Event.call (mark c))) () [mark c] := by
    intro w
    exact ⟨rfl, Work.calls_record (.call (mark c)) w⟩
  exact hmark.bind (h c)

/--
A group lists what it visits, with the results that the criteria have on their own.
Each visit is made once and makes the calls that the criterion makes on its own, and
nothing else is called.
-/
theorem evaluate_lists (env : Environment Hook) (record : Value) (plan : GroupPlan Hook)
    (mark : Criterion Hook → Hook) (alone w : Workspace Hook) :
    let evaluate : Visit Hook := fun c => c.evaluate env record
    let result := fun c => (evaluate c alone).1
    let verdict := fun c => (result c).passed
    let calls := fun c => (evaluate c).callsFrom alone
    plan.Lists result (plan.evaluate env record w).1 ∧
      (plan.evaluate env record w).2.calls = w.calls ++ (plan.visited verdict).flatMap calls ∧
      (plan.evaluateBy (marking mark evaluate) w).2.calls =
        w.calls ++ (plan.visited verdict).flatMap (fun c => mark c :: calls c) ∧
      (plan.visited verdict).Perm ((plan.listed verdict).flatMap (·.listed verdict)) := by
  intro evaluate result verdict calls
  have halone : ∀ c, (evaluate c).Yields (result c) (calls c) :=
    Criterion.evaluate_yields env record alone
  rcases evaluateBy_yields halone plan w with ⟨_, hcalls⟩
  rcases evaluateBy_yields (marking_yields mark halone) plan w with ⟨_, hmarks⟩
  refine ⟨?_, ?_, ?_, plan.perm_visited verdict⟩
  · rw [plan.evaluate_fst env record alone]
    exact plan.report_lists result
  · rw [visited, List.flatMap_assoc]
    exact hcalls
  · rw [visited, List.flatMap_assoc]
    exact hmarks

end GroupPlan

end RecordFilter
