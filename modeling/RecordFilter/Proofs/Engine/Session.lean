import RecordFilter.Engine.Report
import RecordFilter.Proofs.Engine.Aliases
import RecordFilter.Proofs.Engine.Batch

/-!
# Sessions

A session is any sequence of operations on one engine.  Only the saved criteria carry over
from one operation to the next: what the normalizer remembers has no influence on what it
answers, and the journal is never read.  So an engine that remembers folded texts and one that
does not answer alike all the time, and evaluations leave no trace in later answers.

The main statement says both, for all operations and all engines.
-/

namespace RecordFilter

variable {Hook : Type}

/-! ## Evaluations -/

section Evaluation

variable {visit : Visit Hook} (h : ∀ criterion, (visit criterion).IsSteady)
include h

theorem FilterPlan.isSteady_evaluate (plan : FilterPlan Hook) :
    (plan.evaluate visit).IsSteady := by
  unfold evaluate
  split
  · unfold evaluateLightFirst
    refine (Work.IsSteady.mapM h _).bind ?_
    intro lightResults
    dsimp only
    split
    · refine (Work.IsSteady.mapM h _).bind ?_
      intro heavyResults
      exact Work.isSteady_pure _
    · refine (Work.isSteady_record _).bind ?_
      intro _
      exact Work.isSteady_pure _
  · refine (Work.IsSteady.mapM h _).bind ?_
    intro results
    exact Work.isSteady_pure _

theorem GroupPlan.isSteady_evaluateUntilFailure (filters : List (FilterPlan Hook)) :
    (evaluateUntilFailure visit filters).IsSteady := by
  induction filters with
  | nil => exact Work.isSteady_pure []
  | cons filter rest ih =>
      refine (filter.isSteady_evaluate h).bind ?_
      intro result
      split
      · refine ih.bind ?_
        intro results
        exact Work.isSteady_pure _
      · exact Work.isSteady_pure _

theorem GroupPlan.isSteady_evaluateAll (filters : List (FilterPlan Hook)) :
    (evaluateAll visit filters).IsSteady := by
  refine (isSteady_evaluateUntilFailure h filters).bind ?_
  intro results
  split
  · exact Work.isSteady_pure _
  · split
    · refine (Work.isSteady_record _).bind ?_
      intro _
      exact Work.isSteady_pure _
    · exact Work.isSteady_pure _

theorem GroupPlan.isSteady_evaluateBy (plan : GroupPlan Hook) :
    (plan.evaluateBy visit).IsSteady := by
  unfold evaluateBy
  split
  · exact Work.isSteady_pure _
  · cases plan.connective with
    | all => exact isSteady_evaluateAll h plan.active
    | any =>
        refine (Work.IsSteady.mapM (FilterPlan.isSteady_evaluate h) _).bind ?_
        intro results
        exact Work.isSteady_pure _

end Evaluation

theorem GroupPlan.isSteady_evaluate (env : Environment Hook) (record : Value)
    (plan : GroupPlan Hook) : (plan.evaluate env record).IsSteady :=
  isSteady_evaluateBy (Criterion.isSteady_evaluate env record) plan

theorem Plan.isSteady_evaluate (env : Environment Hook) (record : Value) (plan : Plan Hook) :
    (plan.evaluate env record).IsSteady := by
  refine (plan.group.isSteady_evaluate env record).bind ?_
  intro result
  exact Work.isSteady_pure _

namespace Engine

theorem isSteady_verdict (env : Environment Hook) (record : Value)
    (plan : Option (GroupPlan Hook)) : (verdict env record plan).IsSteady := by
  cases plan with
  | none => exact Work.isSteady_pure true
  | some plan =>
      refine (plan.isSteady_evaluate env record).bind ?_
      intro result
      exact Work.isSteady_pure _

theorem isSteady_verdicts (env : Environment Hook) (records : List Value)
    (plans : List (Option (GroupPlan Hook))) (limit : Option Nat) :
    (verdicts env records plans limit).IsSteady := by
  refine (Work.isSteady_record _).bind ?_
  intro _
  refine Work.IsSteady.mapM ?_ records
  intro record
  exact Work.IsSteady.mapM (isSteady_verdict _ record) plans

/-! ## Operations -/

/--
Where certain criteria are saved, the operation gives the answer and leaves others saved.  What
it puts into the journal depends on nothing but these criteria and the limit in the settings.
-/
def Does {α : Type} (task : EngineM Hook α) (before : Registry Hook) (answer : α)
    (after : Registry Hook) : Prop :=
  ∃ events : Option Nat → List (Event Hook), ∀ settings workspace,
    let run := task ⟨settings, before, workspace⟩
    run.1 = answer ∧ run.2.settings = settings ∧ run.2.registry = after ∧
      run.2.workspace.journal.toList =
        workspace.journal.toList ++ events settings.concurrency

variable {α β : Type} {before : Registry Hook}

theorem does_of_silent {task : EngineM Hook α} {answer : α} {after : Registry Hook}
    (h : ∀ settings workspace,
      let run := task ⟨settings, before, workspace⟩
      run.1 = answer ∧ run.2.settings = settings ∧ run.2.registry = after ∧
        run.2.workspace.journal = workspace.journal) : Does task before answer after := by
  refine ⟨fun _ => [], ?_⟩
  intro settings workspace
  rcases h settings workspace with ⟨hanswer, hsettings, hregistry, hjournal⟩
  refine ⟨hanswer, hsettings, hregistry, ?_⟩
  rw [hjournal, List.append_nil]

theorem does_pure (a : α) : Does (pure a) before a before := by
  apply does_of_silent
  intro settings workspace
  exact ⟨rfl, rfl, rfl, rfl⟩

theorem Does.bind {task : EngineM Hook α} {next : α → EngineM Hook β} {a : α} {b : β}
    {between after : Registry Hook} (htask : Does task before a between)
    (hnext : Does (next a) between b after) : Does (task >>= next) before b after := by
  rcases htask with ⟨first, hfirst⟩
  rcases hnext with ⟨second, hsecond⟩
  refine ⟨fun limit => first limit ++ second limit, ?_⟩
  intro settings workspace run
  have hstart := hfirst settings workspace
  have hrun : run = _ := bind_apply task next ⟨settings, before, workspace⟩
  generalize task ⟨settings, before, workspace⟩ = middle at hstart hrun
  rcases hstart with ⟨rfl, rfl, rfl, hjournal⟩
  rcases hsecond middle.2.settings middle.2.workspace with ⟨hanswer, hsettings, hregistry, hrest⟩
  rw [hrun]
  refine ⟨hanswer, hsettings, hregistry, ?_⟩
  rw [← List.append_assoc, ← hjournal]
  exact hrest

theorem Does.bind_pure {task : EngineM Hook α} {a : α} {after : Registry Hook}
    (h : Does task before a after) (f : α → β) :
    Does (task >>= fun answer => pure (f answer)) before (f a) after :=
  h.bind (does_pure (f a))

theorem does_work {task : Work Hook α} {answer : α} {events : List (Event Hook)}
    (h : task.Writes answer events) : Does (work task) before answer before := by
  refine ⟨fun _ => events, ?_⟩
  intro settings workspace
  rcases h workspace with ⟨hanswer, hjournal⟩
  exact ⟨hanswer, rfl, rfl, hjournal⟩

theorem Does.registry_eq {task : EngineM Hook α} {answer : α} {after : Registry Hook}
    (h : Does task before answer after) (settings : Settings) (workspace : Workspace Hook) :
    (task ⟨settings, before, workspace⟩).2.registry = after := by
  rcases h with ⟨events, hrun⟩
  exact (hrun settings workspace).2.2.1

theorem Does.answer_eq {task : EngineM Hook α} {answer : α} {after : Registry Hook}
    (h : Does task before answer after) (settings : Settings) (workspace : Workspace Hook) :
    (task ⟨settings, before, workspace⟩).1 = answer := by
  rcases h with ⟨events, hrun⟩
  exact (hrun settings workspace).1

theorem does_of_exists {task : EngineM Hook α} (engine : Engine Hook)
    (h : ∃ answer after, Does task engine.registry answer after) :
    Does task engine.registry (task engine).1 (task engine).2.registry := by
  rcases h with ⟨answer, after, hdoes⟩
  have hanswer := hdoes.answer_eq engine.settings engine.workspace
  have hafter := hdoes.registry_eq engine.settings engine.workspace
  rw [← hanswer, ← hafter] at hdoes
  exact hdoes

/-! ### Edits -/

theorem exists_does_save (criterion : Criterion Hook) (before : Registry Hook) :
    ∃ answer after, Does (save criterion) before answer after := by
  by_cases h : criterion.IsAnonymous
  · refine ⟨.error .missingAlias, before, does_of_silent ?_⟩
    intro settings workspace
    rw [save_of_isAnonymous h]
    exact ⟨rfl, rfl, rfl, rfl⟩
  · rcases Registry.exists_aliasName? h with ⟨aliasName, hname⟩
    let name := criterion.aliasName.getD ""
    let done := if Keyed.contains name before then "Replaced saved" else "Saved"
    refine ⟨.ok (), Keyed.insert aliasName criterion before,
      fun _ => [.log .info (done ++ " criterion '" ++ name ++ "'")], ?_⟩
    intro settings workspace
    have hsave : before.save criterion = .ok (Keyed.insert aliasName criterion before) := by
      rw [Registry.save, hname]
    rw [save, bind_apply, get_apply]
    simp only [hsave]
    exact ⟨rfl, rfl, rfl, Array.toList_push⟩

theorem exists_does_saveAll (criteria : List (Criterion Hook)) (before : Registry Hook) :
    ∃ answer after, Does (saveAll criteria) before answer after := by
  induction criteria generalizing before with
  | nil => exact ⟨.ok (), before, does_pure _⟩
  | cons criterion rest ih =>
      rcases exists_does_save criterion before with ⟨answer, between, hsave⟩
      cases answer with
      | error e => exact ⟨.error e, between, hsave.bind (does_pure _)⟩
      | ok done =>
          rcases ih between with ⟨last, after, hrest⟩
          exact ⟨last, after, hsave.bind hrest⟩

theorem exists_does_edit (edit : Edit Hook) (before : Registry Hook) :
    ∃ answer, Does edit.run before answer (edit.changes.foldl Change.apply before) := by
  have hsome : ∃ answer after, Does edit.run before answer after := by
    cases edit with
    | save criterion =>
        rcases exists_does_save criterion before with ⟨answer, after, h⟩
        exact ⟨.saved answer, after, h.bind_pure EditReply.saved⟩
    | saveAll criteria =>
        rcases exists_does_saveAll criteria before with ⟨answer, after, h⟩
        exact ⟨.saved answer, after, h.bind_pure EditReply.saved⟩
    | remove aliasName =>
        refine ⟨.removed (Keyed.contains aliasName before), Keyed.erase aliasName before,
          does_of_silent ?_⟩
        intro settings workspace
        exact ⟨rfl, rfl, rfl, rfl⟩
    | clear =>
        refine ⟨.cleared, [], does_of_silent ?_⟩
        intro settings workspace
        exact ⟨rfl, rfl, rfl, rfl⟩
  rcases hsome with ⟨answer, after, h⟩
  have hafter := h.registry_eq .default ⟨.forgetful, #[]⟩
  rw [registry_run] at hafter
  rw [hafter]
  exact ⟨answer, h⟩

/-! ### Evaluations -/

section Queries

variable (env : Environment Hook) (before : Registry Hook)

theorem exists_does_evaluate (record : Value) (expression : Expression Hook) :
    ∃ answer, Does (evaluate env record expression) before answer before := by
  cases hplan : expression.plan before with
  | error e =>
      refine ⟨.error e, does_of_silent ?_⟩
      intro settings workspace
      have hrefuses : Refuses ⟨settings, before, workspace⟩ expression e :=
        refuses_of_plan hplan
      rw [hrefuses.evaluation]
      exact ⟨rfl, rfl, rfl, rfl⟩
  | ok plan =>
      rcases plan.isSteady_evaluate env record with ⟨outcome, events, hwrites⟩
      refine ⟨.ok outcome, fun _ => events, ?_⟩
      intro settings workspace
      rcases hwrites workspace with ⟨hanswer, hjournal⟩
      have hrun : evaluate env record expression ⟨settings, before, workspace⟩ = _ :=
        evaluate_eq_of_plan hplan
      rw [hrun]
      exact ⟨congrArg Except.ok hanswer, rfl, rfl, hjournal⟩

theorem exists_does_evaluateJson (record : Value) (json : Json) :
    ∃ answer, Does (evaluateJson env record json) before answer before := by
  unfold evaluateJson
  cases (Expression.ofJson json : Except FilterError (Expression Hook)) with
  | error e => exact ⟨.error e, does_pure _⟩
  | ok expression => exact exists_does_evaluate _ before record expression

theorem exists_writes_verdicts (records : List Value) (plans : List (Option (GroupPlan Hook))) :
    ∃ (passed : List (List Bool)) (events : Option Nat → List (Event Hook)),
      ∀ limit, (verdicts env records plans limit).Writes passed (events limit) := by
  choose passed events hwrites using isSteady_verdicts env records plans
  refine ⟨passed none, events, ?_⟩
  intro limit workspace
  have hpassed : passed limit = passed none := by
    rw [← (hwrites limit workspace).1, ← (hwrites none workspace).1,
      verdicts_fst env records workspace, verdicts_fst env records workspace]
  rw [← hpassed]
  exact hwrites limit workspace

theorem exists_does_filterRecords (records : List Value) (expression : Expression Hook)
    (concurrency : Option Nat) :
    ∃ answer, Does (filterRecords env records expression concurrency) before answer before := by
  cases hactive : activePlan ⟨.default, before, ⟨.forgetful, #[]⟩⟩ expression with
  | error e =>
      refine ⟨.error e, does_of_silent ?_⟩
      intro settings workspace
      have hhere : activePlan ⟨settings, before, workspace⟩ expression = _ := hactive
      rw [filterRecords, bind_apply, get_apply]
      simp only [hhere]
      exact ⟨rfl, rfl, rfl, rfl⟩
  | ok active =>
      cases active with
      | none =>
          refine ⟨.ok records, does_of_silent ?_⟩
          intro settings workspace
          have hhere : activePlan ⟨settings, before, workspace⟩ expression = _ := hactive
          rw [filterRecords, bind_apply, get_apply]
          simp only [hhere]
          exact ⟨rfl, rfl, rfl, rfl⟩
      | some plan =>
          rcases exists_writes_verdicts env records [some plan] with ⟨passed, events, hwrites⟩
          refine ⟨.ok (keptAt 0 records passed),
            fun default => events ((concurrency.or default).filter (0 < ·)), ?_⟩
          intro settings workspace
          have hhere : activePlan ⟨settings, before, workspace⟩ expression = _ := hactive
          rcases hwrites (limit ⟨settings, before, workspace⟩ concurrency) workspace with
            ⟨hpassed, hjournal⟩
          rw [filterRecords, bind_apply, get_apply]
          simp only [hhere]
          rw [← hpassed]
          exact ⟨rfl, rfl, rfl, hjournal⟩

theorem exists_does_partition (records : List Value) (named : Keyed (Expression Hook))
    (concurrency : Option Nat) :
    ∃ answer, Does (partition env records named concurrency) before answer before := by
  cases hplans : named.mapM (fun entry =>
      activePlan ⟨.default, before, ⟨.forgetful, #[]⟩⟩ entry.2) with
  | error e =>
      refine ⟨.error e, does_of_silent ?_⟩
      intro settings workspace
      have hhere : named.mapM (fun entry =>
          activePlan ⟨settings, before, workspace⟩ entry.2) = _ := hplans
      rw [partition, bind_apply, get_apply]
      simp only [hhere]
      exact ⟨rfl, rfl, rfl, rfl⟩
  | ok plans =>
      rcases exists_writes_verdicts env records plans with ⟨passed, events, hwrites⟩
      refine ⟨.ok ((Keyed.keys named).zipIdx.map fun entry =>
          (entry.1, keptAt entry.2 records passed)),
        fun default => events ((concurrency.or default).filter (0 < ·)), ?_⟩
      intro settings workspace
      have hhere : named.mapM (fun entry =>
          activePlan ⟨settings, before, workspace⟩ entry.2) = _ := hplans
      rcases hwrites (limit ⟨settings, before, workspace⟩ concurrency) workspace with
        ⟨hpassed, hjournal⟩
      rw [partition, bind_apply, get_apply]
      simp only [hhere]
      rw [← hpassed]
      exact ⟨rfl, rfl, rfl, hjournal⟩

end Queries

end Engine

/-! ## Requests -/

inductive Request (Hook : Type) where
  | alter (edit : Edit Hook)
  | evaluate (context record : Value) (expression : Expression Hook)
  | evaluateJson (record : Value) (json : Json)
  | filter (records : List Value) (expression : Expression Hook) (concurrency : Option Nat)
  | partition (records : List Value) (named : Keyed (Expression Hook)) (concurrency : Option Nat)
  | validate (expression : Expression Hook)
  | normalizeText (text : String)
  | normalize (v : Value)
  | clearCache

inductive Reply where
  | altered (reply : EditReply)
  | evaluated (result : Except FilterError Outcome)
  | filtered (result : Except FilterError (List Value))
  | partitioned (result : Except FilterError (Keyed (List Value)))
  | validated (result : Except FilterError Unit)
  | text (folded : String)
  | value (folded : Value)
  | cleared

namespace Request

def run (env : Environment Hook) : Request Hook → EngineM Hook Reply
  | .alter edit => do return .altered (← edit.run)
  | .evaluate context record expression => do
      return .evaluated (← Engine.evaluate { env with context := context } record expression)
  | .evaluateJson record json => do return .evaluated (← Engine.evaluateJson env record json)
  | .filter records expression concurrency => do
      return .filtered (← Engine.filterRecords env records expression concurrency)
  | .partition records named concurrency => do
      return .partitioned (← Engine.partition env records named concurrency)
  | .validate expression => do return .validated ((← get).validate expression)
  | .normalizeText text => do return .text (← Engine.normalizeText text)
  | .normalize v => do return .value (← Engine.work (Work.normalize v))
  | .clearCache => do
      Engine.clearCache
      return .cleared

def isEdit : Request Hook → Bool
  | .alter _ => true
  | _ => false

def changes : Request Hook → List (Change Hook)
  | .alter edit => edit.changes
  | _ => []

theorem exists_does (env : Environment Hook) (request : Request Hook) (before : Registry Hook) :
    ∃ reply,
      Engine.Does (request.run env) before reply (request.changes.foldl Change.apply before) := by
  cases request with
  | alter edit =>
      rcases Engine.exists_does_edit edit before with ⟨answer, h⟩
      exact ⟨.altered answer, h.bind_pure Reply.altered⟩
  | evaluate context record expression =>
      rcases Engine.exists_does_evaluate { env with context := context } before record expression
        with ⟨answer, h⟩
      exact ⟨.evaluated answer, h.bind_pure Reply.evaluated⟩
  | evaluateJson record json =>
      rcases Engine.exists_does_evaluateJson env before record json with ⟨answer, h⟩
      exact ⟨.evaluated answer, h.bind_pure Reply.evaluated⟩
  | filter records expression concurrency =>
      rcases Engine.exists_does_filterRecords env before records expression concurrency with
        ⟨answer, h⟩
      exact ⟨.filtered answer, h.bind_pure Reply.filtered⟩
  | partition records named concurrency =>
      rcases Engine.exists_does_partition env before records named concurrency with ⟨answer, h⟩
      exact ⟨.partitioned answer, h.bind_pure Reply.partitioned⟩
  | validate expression =>
      refine ⟨.validated ((expression.plan before).map fun _ => ()), Engine.does_of_silent ?_⟩
      intro settings workspace
      exact ⟨rfl, rfl, rfl, rfl⟩
  | normalizeText text =>
      refine ⟨.text (foldText text), Engine.does_of_silent ?_⟩
      intro settings workspace
      exact ⟨congrArg Reply.text (Normalizer.text_fst text _), rfl, rfl, rfl⟩
  | normalize v =>
      rcases Work.isSteady_normalize v with ⟨folded, events, hwrites⟩
      exact ⟨.value folded, (Engine.does_work hwrites).bind_pure Reply.value⟩
  | clearCache =>
      refine ⟨.cleared, Engine.does_of_silent ?_⟩
      intro settings workspace
      exact ⟨rfl, rfl, rfl, rfl⟩

/-! ## Sessions -/

theorem exists_does_session (env : Environment Hook) (requests : List (Request Hook))
    (before : Registry Hook) :
    ∃ replies, Engine.Does (requests.mapM (run env)) before replies
      ((requests.flatMap changes).foldl Change.apply before) := by
  induction requests generalizing before with
  | nil => exact ⟨[], Engine.does_pure []⟩
  | cons request rest ih =>
      rw [List.mapM_cons, List.flatMap_cons, List.foldl_append]
      rcases exists_does env request before with ⟨reply, hfirst⟩
      rcases ih (request.changes.foldl Change.apply before) with ⟨replies, hrest⟩
      exact ⟨reply :: replies, hfirst.bind (hrest.bind_pure fun replies => reply :: replies)⟩

theorem flatMap_changes_filter (requests : List (Request Hook)) :
    (requests.filter isEdit).flatMap changes = requests.flatMap changes := by
  induction requests with
  | nil => rfl
  | cons request rest ih =>
      rw [List.filter_cons, List.flatMap_cons, ← ih]
      cases request <;> rfl

theorem registry_session_edits (env : Environment Hook) (requests : List (Request Hook))
    (engine : Engine Hook) :
    (requests.mapM (run env) engine).2.registry =
      ((requests.filter isEdit).mapM (run env) engine).2.registry := by
  rcases exists_does_session env requests engine.registry with ⟨_, hall⟩
  rcases exists_does_session env (requests.filter isEdit) engine.registry with ⟨_, hedits⟩
  rw [flatMap_changes_filter] at hedits
  exact (hall.registry_eq engine.settings engine.workspace).trans
    (hedits.registry_eq engine.settings engine.workspace).symm

theorem reply_eq (env : Environment Hook) (request : Request Hook) {first second : Engine Hook}
    (h : first.registry = second.registry) :
    (request.run env first).1 = (request.run env second).1 := by
  rcases exists_does env request first.registry with ⟨reply, events, hrun⟩
  have hfirst : (request.run env first).1 = reply :=
    (hrun first.settings first.workspace).1
  have hsecond := (hrun second.settings second.workspace).1
  rw [h] at hsecond
  exact hfirst.trans hsecond.symm

end Request

theorem Engine.exists_report_lines (registry : Registry Hook) :
    ∃ lines : List String, ∀ engine : Engine Hook, engine.registry = registry →
      engine.report = "\n".intercalate (lines ++
        ["Normalizer cache: " ++ toString engine.cachedTexts ++ " entries"]) := by
  refine ⟨"Operators:" :: (Vocabulary.all : List CriterionType).map CriterionType.reportLine ++
    ("Aliases (" ++ toString registry.length ++ "):") ::
      registry.map (fun entry => entry.2.reportLine entry.1), ?_⟩
  intro engine hregistry
  rw [← hregistry]
  rfl

/--
An engine that remembers folded texts and one that does not give the same replies in every
session, save the same criteria and log the same; at most their reports differ, in the line on
the memory.  The reply to a request depends on nothing but the saved criteria, and is the same
if what came before it is cut down to the edits.
-/
theorem replies_independent_of_memory (env : Environment Hook) :
    (∀ (settings : Settings) (requests : List (Request Hook)),
      let session (remember : Bool) :=
        requests.mapM (Request.run env)
          (Engine.start { settings with cacheNormalizedText := remember })
      (session true).1 = (session false).1 ∧
        (session true).2.registry = (session false).2.registry ∧
        (session true).2.workspace.journal = (session false).2.workspace.journal ∧
        ∃ lines : List String, ∀ remember,
          (session remember).2.report = "\n".intercalate (lines ++
            ["Normalizer cache: " ++ toString (session remember).2.cachedTexts ++ " entries"])) ∧
    (∀ (request : Request Hook) (registry : Registry Hook) (settings other : Settings)
      (workspace another : Workspace Hook),
      (request.run env ⟨settings, registry, workspace⟩).1 =
        (request.run env ⟨other, registry, another⟩).1) ∧
    ∀ (past : List (Request Hook)) (request : Request Hook) (engine : Engine Hook),
      (request.run env (past.mapM (Request.run env) engine).2).1 =
        (request.run env ((past.filter Request.isEdit).mapM (Request.run env) engine).2).1 := by
  refine ⟨?_, ?_, ?_⟩
  · intro settings requests session
    rcases Request.exists_does_session env requests [] with ⟨replies, events, hrun⟩
    have hsession : ∀ remember, (session remember).1 = replies ∧
        (session remember).2.registry = (requests.flatMap Request.changes).foldl Change.apply [] ∧
        (session remember).2.workspace.journal.toList = events settings.concurrency := by
      intro remember
      rcases hrun { settings with cacheNormalizedText := remember }
        (Engine.start { settings with cacheNormalizedText := remember }).workspace with
        ⟨hreplies, _, hregistry, hjournal⟩
      exact ⟨hreplies, hregistry, hjournal⟩
    rcases hsession true with ⟨hreplies, hregistry, hjournal⟩
    rcases hsession false with ⟨hreplies', hregistry', hjournal'⟩
    refine ⟨hreplies.trans hreplies'.symm, hregistry.trans hregistry'.symm, ?_, ?_⟩
    · exact Array.toList_inj.mp (hjournal.trans hjournal'.symm)
    · rcases Engine.exists_report_lines
        ((requests.flatMap Request.changes).foldl Change.apply ([] : Registry Hook)) with
        ⟨lines, hreport⟩
      refine ⟨lines, ?_⟩
      intro remember
      exact hreport _ (hsession remember).2.1
  · intro request registry settings other workspace another
    exact Request.reply_eq env request rfl
  · intro past request engine
    exact Request.reply_eq env request (Request.registry_session_edits env past engine)

end RecordFilter
