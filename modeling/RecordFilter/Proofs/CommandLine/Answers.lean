import RecordFilter.Proofs.CommandLine.Stages
import RecordFilter.Proofs.Json.Line

/-!
# Answers of the program

What a run prints is put together after the last of its stages, so a run that fails prints
nothing.  The answer of a run that filters is told by the evaluations of the records, one by one,
on any engine where the criteria of the file are saved: neither the settings of the engine nor
the limit show up in it.

The main statement says when there is an answer, what it is, and what it does not depend on.
-/

namespace RecordFilter

/-! ## Verdicts -/

/--
The records that pass are those on which the evaluation of the expression passes, on any engine
where these criteria are saved.
-/
def Engine.Judges {Hook : Type} (env : Environment Hook) (registry : Registry Hook)
    (expression : Expression Hook) (passes : Value → Bool) : Prop :=
  ∀ record settings workspace, ∃ outcome,
    (evaluate env record expression ⟨settings, registry, workspace⟩).1 = .ok outcome ∧
      outcome.passed = passes record

namespace Engine

variable {Hook : Type} {registry : Registry Hook} {expression : Expression Hook}

theorem exists_judges (env : Environment Hook) (h : expression.Resolves registry) :
    ∃ passes, Judges env registry expression passes := by
  let alone : Workspace Hook := ⟨.forgetful, #[]⟩
  let passes (record : Value) : Bool :=
    expression.holds registry fun c => (c.evaluate env record alone).1.passed
  rcases Expression.exists_plan h with ⟨plan, hplan, hgroup⟩
  refine ⟨passes, ?_⟩
  intro record settings workspace
  have hevaluate := @evaluate_of_plan Hook env record expression ⟨settings, registry, workspace⟩ _
    hplan
  rw [plan.evaluate_fst env record alone] at hevaluate
  exact ⟨_, hevaluate, (Expression.outcome_of_isPlan hgroup _).2⟩

theorem Judges.does_filterRecords {env : Environment Hook} {passes : Value → Bool}
    (h : Judges { env with context := .undefined } registry expression passes)
    (records : List Value) (concurrency : Option Nat) :
    Does (filterRecords env records expression concurrency) registry
      (.ok (records.filter passes)) registry := by
  let engine : Engine Hook := ⟨.default, registry, ⟨.forgetful, #[]⟩⟩
  have hselects : engine.Selects { env with context := .undefined } expression records
      (filterRecords env records expression concurrency engine).1 := by
    by_cases hresolves : expression.Resolves registry
    · exact selects_of_resolves env records concurrency hresolves
    · exact selects_of_not_resolves env records concurrency hresolves
  rcases exists_does_filterRecords env registry records expression concurrency with ⟨kept, hdoes⟩
  have hkept : (filterRecords env records expression concurrency engine).1 = kept :=
    hdoes.answer_eq engine.settings engine.workspace
  rw [hkept] at hselects
  cases hselects with
  | fails each =>
      rcases h .null engine.settings engine.workspace with ⟨outcome, houtcome, _⟩
      cases (each .null engine.workspace).symm.trans houtcome
  | @keeps others each =>
      have hothers : others = passes := by
        funext record
        rcases each record engine.workspace with ⟨outcome, houtcome, hother⟩
        rcases h record engine.settings engine.workspace with ⟨same, hsame, hpasses⟩
        cases houtcome.symm.trans hsame
        exact hother.symm.trans hpasses
      rw [hothers] at hdoes
      exact hdoes

end Engine

/-! ## Answers -/

def Printed.ofKept (kept : List Value) (total : Nat) : Printed where
  output := String.join (kept.map fun record => record.toJson.render ++ "\n")
  errors := "✅ " ++ toString kept.length ++ " of " ++ toString total ++ " records matched\n"

def Finished.ofResult : Except Failure Printed → Finished
  | .ok printed => ⟨0, printed.output, printed.errors⟩
  | .error failure => ⟨1, "", failure.report⟩

theorem Finished.code_ofResult_eq_zero_iff {result : Except Failure Printed} :
    (ofResult result).code = 0 ↔ ∃ printed, result = .ok printed := by
  cases result <;> simp [ofResult]

theorem Finished.output_ofResult {result : Except Failure Printed}
    (h : (ofResult result).code ≠ 0) : (ofResult result).output = "" := by
  cases result with
  | ok printed => exact absurd rfl h
  | error failure => rfl

namespace Arguments

section Answer

variable (arguments : Arguments) (env : Environment Empty) (records : List Value)
  {registry : Registry Empty} {expression : Expression Empty}

theorem exists_ends_explainFirst :
    ∃ result, RunM.Ends (explainFirst env records expression) registry result registry := by
  cases records with
  | nil => exact ⟨_, RunM.ends_throw _⟩
  | cons first rest =>
      rcases Engine.exists_does_evaluate env registry first expression with ⟨outcome, hdoes⟩
      cases outcome with
      | error e =>
          have hfailure := RunM.ends_require Failure.ofError (.error e : Except _ Outcome) registry
          exact ⟨_, (RunM.ends_lift hdoes).bind hfailure.bind_error⟩
      | ok outcome =>
          have houtcome := RunM.ends_require Failure.ofError (.ok outcome) registry
          exact ⟨_, (RunM.ends_lift hdoes).bind (houtcome.bind (RunM.ends_pure _))⟩

theorem ends_printKept {passes : Value → Bool}
    (h : Engine.Judges { env with context := .undefined } registry expression passes) :
    RunM.Ends (arguments.printKept env records expression) registry
      (.ok (.ofKept (records.filter passes) records.length)) registry := by
  have hkept := h.does_filterRecords records arguments.concurrency
  have hrecords := RunM.ends_require Failure.ofError (.ok (records.filter passes)) registry
  exact (RunM.ends_lift hkept).bind (hrecords.bind (RunM.ends_pure _))

theorem exists_ends_answer (now : Instant) (h : expression.Resolves registry) :
    ∃ result,
      (∀ (config : Option String) (concurrency : Option Nat),
        let changed := { arguments with config := config, concurrency := concurrency }
        RunM.Ends (changed.answer now (records, expression)) registry result registry) ∧
      (arguments.explain = false →
        ∃ passes, Engine.Judges (environment now) registry expression passes ∧
          result = .ok (.ofKept (records.filter passes) records.length)) := by
  unfold answer
  cases arguments.explain with
  | true =>
      rcases exists_ends_explainFirst (environment now) records with ⟨result, hresult⟩
      exact ⟨result, fun _ _ => hresult, nofun⟩
  | false =>
      rcases Engine.exists_judges (environment now) h with ⟨passes, hpasses⟩
      refine ⟨_, ?_, fun _ => ⟨passes, hpasses, rfl⟩⟩
      intro config concurrency changed
      exact ends_printKept changed (environment now) records hpasses

end Answer

/-! ## Runs -/

section Runs

variable {read : String → FileText} {arguments : Arguments}

theorem run_fst (now : Instant) :
    (arguments.run read now).1 =
      .ofResult ((arguments.perform read now).run (Engine.start .default)).1 := by
  unfold run
  rcases (arguments.perform read now).run (Engine.start .default) with ⟨answer, engine⟩
  cases answer with
  | ok printed => rfl
  | error failure => rfl

theorem run_of_settings (now : Instant) (hinspect : arguments.inspect = false)
    {settings : Settings} (hsettings : arguments.loadedSettings read = .ok settings)
    {result : Except Failure Printed} {after : Registry Empty}
    (hends : RunM.Ends (arguments.prepare read >>= arguments.answer now) [] result after) :
    (arguments.run read now).1 = .ofResult result := by
  rcases exists_run_startEngine read arguments with ⟨_, hstart⟩
  rw [hsettings] at hstart
  rw [run_fst, perform_eq read arguments hinspect, RunM.run_bind_of_ok (hstart _)]
  exact congrArg Finished.ofResult (Engine.Does.answer_eq hends settings _)

theorem exists_settings {now : Instant} (hinspect : arguments.inspect = false)
    (hcode : (arguments.run read now).1.code = 0) :
    ∃ settings, arguments.loadedSettings read = .ok settings := by
  cases hsettings : arguments.loadedSettings read with
  | ok settings => exact ⟨settings, rfl⟩
  | error e =>
      rcases exists_run_startEngine read arguments with ⟨_, hstart⟩
      rw [hsettings] at hstart
      rw [run_fst, perform_eq read arguments hinspect,
        RunM.run_bind_of_error (hstart _)] at hcode
      cases hcode

variable (read arguments) in
/-- There is one result for all settings and limits, and it is the answer if there is one. -/
theorem exists_result (now : Instant) :
    ∃ result after,
      (∀ (config : Option String) (concurrency : Option Nat),
        let changed := { arguments with config := config, concurrency := concurrency }
        RunM.Ends (arguments.prepare read >>= changed.answer now) [] result after) ∧
      (∀ printed, result = .ok printed →
        ∃ registry records expression, arguments.Supplies read registry records expression) ∧
      (arguments.explain = false → ∀ registry records expression,
        arguments.Supplies read registry records expression →
          ∃ passes, Engine.Judges (environment now) registry expression passes ∧
            result = .ok (.ofKept (records.filter passes) records.length)) := by
  rcases achieves_prepare read arguments with ⟨prepared, registry, hprepared, hright⟩
  cases prepared with
  | error failure =>
      refine ⟨.error failure, registry, fun _ _ => hprepared.bind_error, nofun, ?_⟩
      intro _ other records expression h
      cases ((hright (records, expression) other).mp h).1
  | ok input =>
      have hsupplies := (hright input registry).mpr ⟨rfl, rfl⟩
      rcases exists_ends_answer arguments input.1 now hsupplies.resolves with
        ⟨result, hresult, hkept⟩
      refine ⟨result, registry, ?_, fun _ _ => ⟨_, _, _, hsupplies⟩, ?_⟩
      · intro config concurrency changed
        exact hprepared.bind (hresult config concurrency)
      · intro hexplain other records expression h
        rcases (hright (records, expression) other).mp h with ⟨hinput, rfl⟩
        cases hinput
        exact hkept hexplain

theorem run_output_of_code_ne_zero (now : Instant) (h : (arguments.run read now).1.code ≠ 0) :
    (arguments.run read now).1.output = "" := by
  rw [run_fst] at h ⊢
  exact Finished.output_ofResult h

theorem run_code_eq_zero_iff (now : Instant) (hinspect : arguments.inspect = false)
    (hexplain : arguments.explain = false) :
    (arguments.run read now).1.code = 0 ↔
      (∃ settings, arguments.loadedSettings read = .ok settings) ∧
        ∃ registry records expression, arguments.Supplies read registry records expression := by
  rcases exists_result read arguments now with ⟨result, after, hends, hok, hkept⟩
  have hresult := hends arguments.config arguments.concurrency
  constructor
  · intro hcode
    rcases exists_settings hinspect hcode with ⟨settings, hsettings⟩
    rw [run_of_settings now hinspect hsettings hresult] at hcode
    rcases Finished.code_ofResult_eq_zero_iff.mp hcode with ⟨printed, hprinted⟩
    exact ⟨⟨settings, hsettings⟩, hok printed hprinted⟩
  · rintro ⟨⟨settings, hsettings⟩, registry, records, expression, hsupplies⟩
    rcases hkept hexplain registry records expression hsupplies with ⟨passes, _, hprinted⟩
    rw [run_of_settings now hinspect hsettings hresult, hprinted]
    rfl

theorem run_output (now : Instant) (hinspect : arguments.inspect = false)
    (hexplain : arguments.explain = false) (hcode : (arguments.run read now).1.code = 0)
    {registry : Registry Empty} {records : List Value} {expression : Expression Empty}
    (hsupplies : arguments.Supplies read registry records expression) :
    ∃ passes, Engine.Judges (environment now) registry expression passes ∧
      (arguments.run read now).1.output =
        String.join ((records.filter passes).map fun record => record.toJson.render ++ "\n") := by
  rcases exists_result read arguments now with ⟨result, after, hends, _, hkept⟩
  rcases exists_settings hinspect hcode with ⟨settings, hsettings⟩
  rcases hkept hexplain registry records expression hsupplies with ⟨passes, hpasses, hprinted⟩
  have hresult := hends arguments.config arguments.concurrency
  refine ⟨passes, hpasses, ?_⟩
  rw [run_of_settings now hinspect hsettings hresult, hprinted]
  rfl

theorem run_congr (now : Instant) (hinspect : arguments.inspect = false)
    {other : String → FileText} {settings others : Settings} (config : Option String)
    (concurrency : Option Nat) (hsettings : arguments.loadedSettings read = .ok settings)
    (hothers : { arguments with config := config }.loadedSettings other = .ok others)
    (hfiles : ∀ name, arguments.aliases = some name ∨ arguments.records = some name ∨
      arguments.expression = some name → other name = read name) :
    ({ arguments with config := config, concurrency := concurrency }.run other now).1 =
      (arguments.run read now).1 := by
  let changed := { arguments with config := config, concurrency := concurrency }
  rcases exists_result read arguments now with ⟨result, after, hends, _, _⟩
  have hresult := hends arguments.config arguments.concurrency
  have hprepare : changed.prepare other = arguments.prepare read :=
    prepare_congr config concurrency hfiles
  have hchanged : RunM.Ends (changed.prepare other >>= changed.answer now) [] result after := by
    rw [hprepare]
    exact hends config concurrency
  have hmode : changed.inspect = false := hinspect
  have hrun := run_of_settings now hmode hothers hchanged
  exact hrun.trans (run_of_settings now hinspect hsettings hresult).symm

end Runs

end Arguments

/--
A run that fails prints nothing.  A run that filters does not fail if its settings load and its
files hold what is needed, and then it prints the records on which the evaluation passes, in their
order, one a line.  The settings, once they load, and the limit make no difference to a run that
evaluates.
-/
theorem run_prints_all_or_nothing (read : String → FileText) (arguments : Arguments)
    (now : Instant) :
    let finished := (arguments.run read now).1
    (finished.code ≠ 0 → finished.output = "") ∧
    (arguments.inspect = false → arguments.explain = false →
      (finished.code = 0 ↔
        (∃ settings, arguments.loadedSettings read = .ok settings) ∧
          ∃ registry records expression, arguments.Supplies read registry records expression) ∧
      ∀ registry records expression, finished.code = 0 →
        arguments.Supplies read registry records expression →
          ∃ passes, Engine.Judges (Arguments.environment now) registry expression passes ∧
            let lines := (records.filter passes).map fun record => record.toJson.render
            finished.output = String.join (lines.map (· ++ "\n")) ∧
              ∀ line ∈ lines, '\n' ∉ line.toList) ∧
    (arguments.inspect = false →
      ∀ (config : Option String) (concurrency : Option Nat) (other : String → FileText),
        let changed := { arguments with config := config, concurrency := concurrency }
        (∃ settings, arguments.loadedSettings read = .ok settings) →
        (∃ settings, changed.loadedSettings other = .ok settings) →
        (∀ name, arguments.aliases = some name ∨ arguments.records = some name ∨
          arguments.expression = some name → other name = read name) →
        (changed.run other now).1 = finished) := by
  intro finished
  refine ⟨Arguments.run_output_of_code_ne_zero now, ?_, ?_⟩
  · intro hinspect hexplain
    constructor
    · exact Arguments.run_code_eq_zero_iff now hinspect hexplain
    · intro registry records expression hcode hsupplies
      rcases Arguments.run_output now hinspect hexplain hcode hsupplies with
        ⟨passes, hpasses, houtput⟩
      refine ⟨passes, hpasses, ?_⟩
      intro lines
      constructor
      · rw [houtput, List.map_map]
        rfl
      · intro line hline
        rcases List.mem_map.mp hline with ⟨record, _, rfl⟩
        exact record.toJson.newline_not_mem_render
  · rintro hinspect config concurrency other changed ⟨settings, hsettings⟩ ⟨others, hothers⟩
    exact Arguments.run_congr now hinspect config concurrency hsettings hothers

theorem run_prints_all_or_nothing_of_alias :
    let read : String → FileText
      | "aliases.json" => .ok
          "[\x7b\"alias\":\"named\",\"type\":\"BOOLEAN\",\"operator\":\"IS-NOT-NIL\",
            \"valuePath\":\"name\"\x7d]"
      | "records.json" => .ok
          "[\x7b\"name\":\"Jane\"\x7d,\x7b\"name\":null\x7d,\x7b\"name\":1\x7d]"
      | "expression.json" => .ok "\x7b\"alias\":\"named\"\x7d"
      | "settings.json" => .ok "\x7b\"concurrency\":1,\"cacheNormalizedText\":false\x7d"
      | _ => .error .notText
    let arguments := { Arguments.initial with
      records := some "records.json", expression := some "expression.json",
      aliases := some "aliases.json" }
    let limited := { arguments with config := some "settings.json", concurrency := some 2 }
    let finished := (arguments.run read ⟨0, 0⟩).1
    finished.output = "\x7b\"name\":\"Jane\"\x7d\n\x7b\"name\":1\x7d\n" ∧
      (limited.run read ⟨0, 0⟩).1 = finished ∧
      ∃ registry records expression, arguments.Supplies read registry records expression ∧
        ∃ passes, Engine.Judges (Arguments.environment ⟨0, 0⟩) registry expression passes ∧
          finished.output = String.join
            (((records.filter passes).map fun record => record.toJson.render).map (· ++ "\n")) := by
  intro read arguments limited finished
  have hanswer := run_prints_all_or_nothing read arguments ⟨0, 0⟩
  have hcode : finished.code = 0 := by
    decide +kernel
  have hlimits : (read "settings.json").settings = .ok ⟨some 1, false⟩ := by
    rfl
  rcases hanswer.2.1 rfl rfl with ⟨hsucceeds, hprints⟩
  rcases (hsucceeds.mp hcode).2 with ⟨registry, records, expression, hsupplies⟩
  rcases hprints registry records expression hcode hsupplies with ⟨passes, hpasses, houtput, _⟩
  refine ⟨?_, ?_, registry, records, expression, hsupplies, passes, hpasses, houtput⟩
  · decide +kernel
  · exact hanswer.2.2 rfl (some "settings.json") (some 2) read ⟨.default, rfl⟩ ⟨_, hlimits⟩
      fun _ _ => rfl

end RecordFilter
