import RecordFilter.Proofs.Evaluation.Subjects

/-!
# Patterns given as texts

An operand can be a pattern, or a text that describes one.  Folding takes the two differently:
it leaves a pattern as it is, but folds a text like any other text.  So a criterion that folds
and is given a text matches with what the folded text describes, which may be another pattern,
or no pattern at all.

The main statement says what a text amounts to, and when this is the pattern it describes.
-/

namespace RecordFilter

variable {Hook : Type}

namespace StringOperator

def TakesPattern (op : StringOperator) : Prop :=
  op = .matchesRegex ∨ op = .notMatchesRegex

section

variable {op : StringOperator} (hop : op.TakesPattern) {source : String} (v : Value)
include hop

theorem TakesPattern.holds_text {p : Pattern} (h : Pattern.ofText? source = some p) :
    op.holds v (.string source) = op.holds v (.regex p) := by
  have htext : pattern? (.string source) = pattern? (.regex p) := by
    rw [pattern?, pattern?, h]
  rcases hop with rfl | rfl
  · simp only [holds, holdsOfText, htext]
  · simp only [holds, holdsOfText, htext]

theorem TakesPattern.holds_text_of_none (h : Pattern.ofText? source = none) :
    op.holds v (.string source) = false := by
  have htext : pattern? (.string source) = none := by
    rw [pattern?, h]
  rcases hop with rfl | rfl
  · simp [holds, holdsOfText, htext]
  · simp [holds, holdsOfText, htext]

end

theorem matchesRegex_holds {v : Value} (hnil : v.isNil = false) (p : Pattern) :
    matchesRegex.holds v (.regex p) = p.matchesIn v.display := by
  simp [holds, holdsOfText, pattern?, hnil]

theorem notMatchesRegex_holds {v : Value} (hnil : v.isNil = false) (p : Pattern) :
    notMatchesRegex.holds v (.regex p) = !p.matchesIn v.display := by
  simp [holds, holdsOfText, pattern?, hnil]

theorem TakesPattern.holds_agree {op : StringOperator} (hop : op.TakesPattern) {p q : Pattern}
    {v : Value} (h : v.isNil = false → q.matchesIn v.display = p.matchesIn v.display) :
    op.holds v (.regex q) = op.holds v (.regex p) := by
  cases hnil : v.isNil with
  | true => simp [holds, hnil]
  | false =>
      rcases hop with rfl | rfl
      · rw [matchesRegex_holds hnil, matchesRegex_holds hnil, h hnil]
      · rw [notMatchesRegex_holds hnil, notMatchesRegex_holds hnil, h hnil]

theorem exists_pattern_of_agree {source : String} {p : Pattern} {v : Value}
    (hnil : v.isNil = false)
    (h : ∀ op : StringOperator, op.TakesPattern →
      op.holds v (.string source) = op.holds v (.regex p)) :
    ∃ q, Pattern.ofText? source = some q ∧ q.matchesIn v.display = p.matchesIn v.display := by
  have hmatches : matchesRegex.TakesPattern := .inl rfl
  have hdenies : notMatchesRegex.TakesPattern := .inr rfl
  have hmatch := h matchesRegex hmatches
  have hdenial := h notMatchesRegex hdenies
  rw [matchesRegex_holds hnil] at hmatch
  rw [notMatchesRegex_holds hnil] at hdenial
  cases hq : Pattern.ofText? source with
  | none =>
      rw [hmatches.holds_text_of_none v hq] at hmatch
      rw [hdenies.holds_text_of_none v hq, ← hmatch] at hdenial
      cases hdenial
  | some q =>
      rw [hmatches.holds_text v hq, matchesRegex_holds hnil] at hmatch
      exact ⟨q, rfl, hmatch⟩

/-- What a text describes agrees with a pattern on the display texts of all folded values. -/
theorem text_agrees_folded_iff {text : String} {p : Pattern} :
    (∀ op : StringOperator, op.TakesPattern → ∀ v : Value,
        op.holds v.folded (.string text) = op.holds v.folded (.regex p)) ↔
      ∃ q, Pattern.ofText? text = some q ∧
        ∀ v : Value, v.isNil = false →
          q.matchesIn v.folded.display = p.matchesIn v.folded.display := by
  constructor
  · intro hagree
    have hpattern (v : Value) (hnil : v.isNil = false) :=
      exists_pattern_of_agree (v.isNil_folded.trans hnil) fun op hop => hagree op hop v
    rcases hpattern (.boolean true) rfl with ⟨q, hq, -⟩
    refine ⟨q, hq, fun v hnil => ?_⟩
    rcases hpattern v hnil with ⟨other, hother, hmatch⟩
    rw [hq] at hother
    cases hother
    exact hmatch
  · rintro ⟨q, hq, hsame⟩ op hop v
    have hholds : op.holds v.folded (.regex q) = op.holds v.folded (.regex p) := by
      apply hop.holds_agree
      intro hnil
      apply hsame
      rwa [Value.isNil_folded] at hnil
    exact (hop.holds_text v.folded hq).trans hholds

end StringOperator

/-! ## Criteria that match -/

namespace Criterion

def matching (op : StringOperator) (path : Path) (operand : Value) (normalize : Bool) :
    Criterion Hook :=
  { ofLiteral (.string op) path operand .undefined with normalize := normalize }

section

variable (env : Environment Hook) (record : Value) (op : StringOperator) (path : Path)
  (operand : Value) (normalize : Bool) (w : Workspace Hook)

theorem matching_passed :
    let criterion : Criterion Hook := matching op path operand normalize
    let found := Path.resolve record path .undefined
    (criterion.evaluate env record w).1.passed =
      (criterion.subjects found.branched (criterion.form found.value)).any fun subject =>
        op.holds subject (criterion.form operand) := by
  intro criterion found
  have hcalls : criterion.CallsNothing := ⟨⟨_, rfl⟩, nofun, rfl, rfl⟩
  exact hcalls.evaluate_passed rfl env record w

theorem matching_item_passed (v : Value) :
    ((matching op [] operand true).evaluate env (.array [v]) w).1.passed =
      op.holds v.folded operand.folded := by
  let criterion : Criterion Hook := matching op [] operand true
  have hfound : Path.resolve (.array [v]) [] .undefined = ⟨.array [v], false⟩ := by
    rw [Path.resolve_eq_resolved]
    rfl
  have hform : criterion.form (.array [v]) = .array [v.folded] := Value.folded_array [v]
  have hsubjects := criterion.subjects_array rfl false [v.folded]
  rw [matching_passed, hfound]
  show List.any (criterion.subjects false (criterion.form (.array [v]))) _ = _
  rw [hform, hsubjects]
  exact Bool.or_false _

theorem matching_text_passed (text : String) :
    ((matching op [] operand true).evaluate env (.string text) w).1.passed =
      op.holds (.string (foldText text)) operand.folded := by
  let criterion : Criterion Hook := matching op [] operand true
  have hcalls : criterion.CallsNothing := ⟨⟨_, rfl⟩, nofun, rfl, rfl⟩
  have hfound : (Path.resolve (.string text) [] .undefined).value = .string text := by
    rw [Path.resolve_eq_resolved]
    rfl
  exact hcalls.evaluate_passed_of_ne_array rfl env hfound nofun w

variable {op operand normalize} {other : Value}

theorem matching_passed_congr {form : Value → Value}
    (hform : (matching op path operand normalize : Criterion Hook).form = form)
    (h : ∀ v, op.holds (form v) (form operand) = op.holds (form v) (form other)) :
    ((matching op path operand normalize).evaluate env record w).1.passed =
      ((matching op path other normalize).evaluate env record w).1.passed := by
  subst hform
  rw [matching_passed, matching_passed, Bool.eq_iff_iff, List.any_eq_true, List.any_eq_true]
  refine exists_congr fun v => and_congr_right fun hv => ?_
  have hagree := h v
  rw [form_of_mem_subjects hv] at hagree
  rw [hagree]
  rfl

theorem matching_passed_congr_folded
    (h : ∀ v : Value, op.holds v.folded operand.folded = op.holds v.folded other.folded) :
    ((matching op path operand true).evaluate env record w).1.passed =
      ((matching op path other true).evaluate env record w).1.passed :=
  matching_passed_congr env record path w rfl h

theorem matching_passed_congr_verbatim (h : ∀ v, op.holds v operand = op.holds v other) :
    ((matching op path operand false).evaluate env record w).1.passed =
      ((matching op path other false).evaluate env record w).1.passed :=
  matching_passed_congr env record path w (funext fun _ => rfl) h

theorem matching_passed_of_folded (h : ∀ v, op.holds v operand.folded = false) :
    ((matching op path operand true).evaluate env record w).1.passed = false := by
  rw [matching_passed, List.any_eq_false]
  intro v _
  exact Bool.eq_false_iff.mp (h v)

end

end Criterion

/--
A criterion that folds matches with the pattern that the folded text describes, and fails if
it describes none.  This is the same as matching with the pattern that the text describes
exactly if the two patterns agree on all display texts of folded values.  A criterion that does
not fold takes a text for the pattern it describes.
-/
theorem text_matches_as_folded (env : Environment Hook) (engine : Engine Hook) {source : String}
    {p : Pattern} (h : Pattern.ofText? source = some p) :
    let byDefault (op : StringOperator) (path : Path) (operand : Value) : Criterion Hook :=
      .ofLiteral (.string op) path operand .undefined
    let verbatim (op : StringOperator) (path : Path) (operand : Value) : Criterion Hook :=
      { byDefault op path operand with normalize := false }
    let verdict (criterion : Criterion Hook) (record : Value) : Except FilterError Bool :=
      (Engine.evaluate env record (.node (.criterion criterion)) engine).1.map Outcome.passed
    (∀ op : StringOperator, op.TakesPattern → ∀ path record,
      (∀ q, Pattern.ofText? (foldText source) = some q →
        verdict (byDefault op path (.string source)) record =
          verdict (byDefault op path (.regex q)) record) ∧
      (Pattern.ofText? (foldText source) = none →
        verdict (byDefault op path (.string source)) record = .ok false) ∧
      verdict (verbatim op path (.string source)) record =
        verdict (verbatim op path (.regex p)) record) ∧
    ((∀ op : StringOperator, op.TakesPattern → ∀ path record,
        verdict (byDefault op path (.string source)) record =
          verdict (byDefault op path (.regex p)) record) ↔
      ∃ q, Pattern.ofText? (foldText source) = some q ∧
        ∀ v : Value, v.isNil = false →
          q.matchesIn v.folded.display = p.matchesIn v.folded.display) := by
  intro byDefault verbatim verdict
  let w : Workspace Hook := engine.workspace
  have hverdict (criterion : Criterion Hook) (record : Value) :
      verdict criterion record = .ok (criterion.evaluate env record w).1.passed :=
    Engine.evaluate_criterion_passed env record criterion engine
  simp only [hverdict, Except.ok.injEq]
  constructor
  · intro op hop path record
    refine ⟨?_, ?_, ?_⟩
    · intro q hq
      refine Criterion.matching_passed_congr_folded env record path w fun v => ?_
      exact hop.holds_text v.folded hq
    · intro hnone
      refine Criterion.matching_passed_of_folded env record path w fun v => ?_
      exact hop.holds_text_of_none v hnone
    · refine Criterion.matching_passed_congr_verbatim env record path w fun v => ?_
      exact hop.holds_text v h
  · rw [← StringOperator.text_agrees_folded_iff]
    constructor
    · intro hagree op hop v
      have hverdicts := hagree op hop [] (.array [v])
      have htext := Criterion.matching_item_passed env op (.string source) w v
      have hpattern := Criterion.matching_item_passed env op (.regex p) w v
      exact htext.symm.trans (hverdicts.trans hpattern)
    · intro hagree op hop path record
      exact Criterion.matching_passed_congr_folded env record path w (hagree op hop)

theorem text_matches_as_folded_of_small_letters :
    let env : Environment Empty := ⟨⟨nofun, nofun, nofun, nofun⟩, ⟨0, 0⟩, .undefined⟩
    let engine : Engine Empty := .start .default
    let verdict (op : StringOperator) (path : Path) (operand record : Value) :
        Except FilterError Bool :=
      let criterion : Criterion Empty := .ofLiteral (.string op) path operand .undefined
      (Engine.evaluate env record (.node (.criterion criterion)) engine).1.map Outcome.passed
    ∃ p, Pattern.ofText? "^jane-[0-9]+$" = some p ∧
      ∀ op : StringOperator, op.TakesPattern → ∀ path record,
        verdict op path (.string "^jane-[0-9]+$") record = verdict op path (.regex p) record := by
  intro env engine verdict
  have hdescribed : (Pattern.ofText? "^jane-[0-9]+$").isSome = true := by
    decide +kernel
  have hfolded : foldText "^jane-[0-9]+$" = "^jane-[0-9]+$" := by
    decide +kernel
  rcases Option.isSome_iff_exists.mp hdescribed with ⟨p, hp⟩
  refine ⟨p, hp, (text_matches_as_folded env engine hp).2.mpr ⟨p, ?_, fun _ _ => rfl⟩⟩
  rw [hfolded]
  exact hp

/-- Folding turns the class of what is no digit into the class of digits. -/
theorem text_matches_as_other_class :
    let env : Environment Empty := ⟨⟨nofun, nofun, nofun, nofun⟩, ⟨0, 0⟩, .undefined⟩
    let engine : Engine Empty := .start .default
    let verdict (operand : Value) : Except FilterError Bool :=
      let criterion : Criterion Empty :=
        .ofLiteral (.string .matchesRegex) [] operand .undefined
      (Engine.evaluate env (.string "abc") (.node (.criterion criterion)) engine).1.map
        Outcome.passed
    ∃ p, Pattern.ofText? "^\\D+$" = some p ∧
      verdict (.string "^\\D+$") = .ok false ∧ verdict (.regex p) = .ok true := by
  intro env engine verdict
  let op : StringOperator := .matchesRegex
  have hop : op.TakesPattern := .inl rfl
  have htext : foldText "abc" = "abc" := by
    decide +kernel
  have hfolded : foldText "^\\D+$" = "^\\d+$" := by
    decide +kernel
  have hother : op.holds (.string "abc") (.string "^\\d+$") = false := by
    decide +kernel
  have hmatch : op.holds (.string "abc") (.string "^\\D+$") = true := by
    decide +kernel
  have hdescribed : (Pattern.ofText? "^\\D+$").isSome = true := by
    decide +kernel
  have hverdict (operand : Value) :
      verdict operand = .ok (op.holds (.string "abc") operand.folded) := by
    refine (Engine.evaluate_criterion_passed env _ _ engine).trans (congrArg Except.ok ?_)
    have hpassed := Criterion.matching_text_passed env op operand engine.workspace "abc"
    rwa [htext] at hpassed
  rcases Option.isSome_iff_exists.mp hdescribed with ⟨p, hp⟩
  refine ⟨p, hp, ?_, ?_⟩
  · have hoperand : (Value.string "^\\D+$").folded = .string "^\\d+$" :=
      congrArg Value.string hfolded
    rw [hverdict, hoperand, hother]
  · have hoperand : (Value.regex p).folded = .regex p := rfl
    rw [hverdict, hoperand, ← hop.holds_text _ hp, hmatch]

end RecordFilter
