import RecordFilter.Evaluation.Criterion

/-!
# Work that does not depend on the workspace

What a criterion gives for a record, and what it puts into the journal on the way, is the
same in every workspace: the normalizer answers what it would answer without its memory, and
the journal is only written to.  In particular the same functions of the caller are called.

The main statement is that the evaluation of a criterion is steady in this sense.
-/

namespace RecordFilter

variable {Hook : Type}

/-! ## Calls -/

def Event.hook? : Event Hook → Option Hook
  | .log _ _ => none
  | .call hook => some hook

def Workspace.calls (w : Workspace Hook) : List Hook :=
  w.journal.toList.filterMap Event.hook?

namespace Work

variable {α β : Type}

def callsFrom (w : Workspace Hook) (task : Work Hook α) : List Hook :=
  (task w).2.calls.drop w.calls.length

/-- In every workspace the work gives the answer and makes the calls. -/
def Yields (task : Work Hook α) (answer : α) (calls : List Hook) : Prop :=
  ∀ w, (task w).1 = answer ∧ (task w).2.calls = w.calls ++ calls

def IsUniform (task : Work Hook α) : Prop :=
  ∃ answer calls, task.Yields answer calls

theorem Yields.isUniform {task : Work Hook α} {answer : α} {calls : List Hook}
    (h : task.Yields answer calls) : task.IsUniform :=
  ⟨answer, calls, h⟩

theorem IsUniform.yields {task : Work Hook α} (h : task.IsUniform) (w : Workspace Hook) :
    task.Yields (task w).1 (task.callsFrom w) := by
  rcases h with ⟨answer, calls, hyields⟩
  rcases hyields w with ⟨hanswer, hcalls⟩
  have hfrom : task.callsFrom w = calls := by
    rw [callsFrom, hcalls, List.drop_left]
  rw [hanswer, hfrom]
  exact hyields

/-! ## Steps -/

theorem yields_pure (a : α) : (pure a : Work Hook α).Yields a [] := by
  intro w
  exact ⟨rfl, (List.append_nil _).symm⟩

theorem Yields.bind {task : Work Hook α} {next : α → Work Hook β} {a : α} {b : β}
    {first second : List Hook} (htask : task.Yields a first) (hnext : (next a).Yields b second) :
    (task >>= next).Yields b (first ++ second) := by
  intro w
  rcases htask w with ⟨hanswer, hcalls⟩
  rcases hnext (task w).2 with ⟨hanswer', hcalls'⟩
  rw [bind_apply, hanswer]
  constructor
  · exact hanswer'
  · rw [hcalls', hcalls, List.append_assoc]

theorem Yields.bind_pure {task : Work Hook α} {a : α} {calls : List Hook}
    (h : task.Yields a calls) (f : α → β) :
    (task >>= fun answer => pure (f answer)).Yields (f a) calls := by
  intro w
  rcases h w with ⟨hanswer, hcalls⟩
  constructor
  · rw [bind_apply, pure_apply, hanswer]
  · exact hcalls

theorem calls_record (event : Event Hook) (w : Workspace Hook) :
    (record event w).2.calls = w.calls ++ event.hook?.toList := by
  show (w.journal.push event).toList.filterMap Event.hook? = _
  rw [Array.toList_push, List.filterMap_append]
  cases h : event.hook? <;> simp [Workspace.calls, h]

theorem yields_log (level : LogLevel) (text : String) :
    (log level text : Work Hook Unit).Yields () [] := by
  intro w
  exact ⟨rfl, calls_record (.log level text) w⟩

theorem Yields.mapM {γ : Type} {task : γ → Work Hook α} {answer : γ → α} {calls : γ → List Hook}
    (h : ∀ x, (task x).Yields (answer x) (calls x)) (xs : List γ) :
    (xs.mapM task).Yields (xs.map answer) (xs.flatMap calls) := by
  induction xs with
  | nil => exact yields_pure []
  | cons x rest ih =>
      rw [List.mapM_cons]
      exact (h x).bind (ih.bind_pure fun answers => answer x :: answers)

/-! ## The journal -/

def Writes (task : Work Hook α) (answer : α) (events : List (Event Hook)) : Prop :=
  ∀ w, (task w).1 = answer ∧ (task w).2.journal.toList = w.journal.toList ++ events

def IsSteady (task : Work Hook α) : Prop :=
  ∃ answer events, task.Writes answer events

theorem Writes.yields {task : Work Hook α} {answer : α} {events : List (Event Hook)}
    (h : task.Writes answer events) : task.Yields answer (events.filterMap Event.hook?) := by
  intro w
  rcases h w with ⟨hanswer, hjournal⟩
  constructor
  · exact hanswer
  · rw [Workspace.calls, hjournal, List.filterMap_append]
    rfl

theorem IsSteady.isUniform {task : Work Hook α} (h : task.IsSteady) : task.IsUniform := by
  rcases h with ⟨answer, events, hwrites⟩
  exact hwrites.yields.isUniform

theorem isSteady_pure (a : α) : (pure a : Work Hook α).IsSteady := by
  refine ⟨a, [], ?_⟩
  intro w
  exact ⟨rfl, (List.append_nil _).symm⟩

theorem isSteady_record (event : Event Hook) : (record event).IsSteady := by
  refine ⟨(), [event], ?_⟩
  intro w
  exact ⟨rfl, Array.toList_push⟩

theorem isSteady_normalize (v : Value) : (normalize v : Work Hook Value).IsSteady := by
  refine ⟨v.folded, [], ?_⟩
  intro w
  exact ⟨Normalizer.value_fst v w.normalizer, (List.append_nil _).symm⟩

theorem IsSteady.bind {task : Work Hook α} {next : α → Work Hook β} (htask : task.IsSteady)
    (hnext : ∀ a, (next a).IsSteady) : (task >>= next).IsSteady := by
  rcases htask with ⟨a, first, hfirst⟩
  rcases hnext a with ⟨b, second, hsecond⟩
  refine ⟨b, first ++ second, ?_⟩
  intro w
  rcases hfirst w with ⟨hanswer, hjournal⟩
  rcases hsecond (task w).2 with ⟨hanswer', hjournal'⟩
  rw [bind_apply, hanswer]
  constructor
  · exact hanswer'
  · rw [hjournal', hjournal, List.append_assoc]

theorem IsSteady.mapM {γ : Type} {task : γ → Work Hook α} (h : ∀ x, (task x).IsSteady)
    (xs : List γ) : (xs.mapM task).IsSteady := by
  induction xs with
  | nil => exact isSteady_pure []
  | cons x rest ih =>
      rw [List.mapM_cons]
      refine (h x).bind ?_
      intro answer
      refine ih.bind ?_
      intro answers
      exact isSteady_pure _

end Work

/-! ## Work that may fail -/

namespace Attempt

variable {α β : Type}

def IsSteady (attempt : Attempt Hook α) : Prop :=
  Work.IsSteady attempt.run

theorem isSteady_of_except (answer : Except HookError α) :
    IsSteady (ExceptT.mk (pure answer) : Attempt Hook α) :=
  Work.isSteady_pure answer

theorem isSteady_pure (a : α) : IsSteady (pure a : Attempt Hook α) :=
  isSteady_of_except (.ok a)

theorem IsSteady.bind {attempt : Attempt Hook α} {next : α → Attempt Hook β}
    (hattempt : IsSteady attempt) (hnext : ∀ a, IsSteady (next a)) :
    IsSteady (attempt >>= next) := by
  unfold IsSteady
  rw [ExceptT.run_bind]
  refine Work.IsSteady.bind hattempt ?_
  intro answer
  cases answer with
  | ok a => exact hnext a
  | error e => exact isSteady_of_except (.error e)

theorem isSteady_lift {task : Work Hook α} (h : task.IsSteady) :
    IsSteady (liftM task : Attempt Hook α) :=
  Work.IsSteady.bind h fun a => isSteady_of_except (.ok a)

theorem isSteady_call (hook : Hook) (answer : Except HookError α) :
    IsSteady (Work.call hook answer) := by
  refine IsSteady.bind (isSteady_lift (Work.isSteady_record (.call hook))) ?_
  intro _
  exact isSteady_of_except answer

end Attempt

/-! ## Criteria -/

namespace Criterion

theorem isSteady_operandFor (env : Environment Hook) (record : Value)
    (criterion : Criterion Hook) : Attempt.IsSteady (criterion.operandFor env record) := by
  unfold operandFor
  cases criterion.operand with
  | literal v => exact Attempt.isSteady_pure v
  | path names => exact Attempt.isSteady_pure _
  | computed hook => exact Attempt.isSteady_call hook _

theorem isSteady_normalizeFor (criterion : Criterion Hook) (v : Value) :
    Work.IsSteady (criterion.normalizeFor v : Work Hook Value) := by
  unfold normalizeFor
  split
  · exact Work.isSteady_normalize v
  · exact Work.isSteady_pure v

theorem isSteady_testRecord (env : Environment Hook) (record : Value)
    (criterion : Criterion Hook) (operand : Value) :
    Attempt.IsSteady (criterion.testRecord env record operand) := by
  have hjudge : ∀ source : Value, Attempt.IsSteady (do
      let found := Path.resolve source criterion.path criterion.default
      let value ← criterion.normalizeFor found.value
      return criterion.judge env.now operand found.branched value : Attempt Hook _) := by
    intro source
    refine Attempt.IsSteady.bind (Attempt.isSteady_lift (isSteady_normalizeFor _ _)) ?_
    intro value
    exact Attempt.isSteady_pure _
  unfold testRecord
  cases criterion.valueMapper with
  | none => exact Attempt.IsSteady.bind (Attempt.isSteady_pure record) hjudge
  | some hook => exact Attempt.IsSteady.bind (Attempt.isSteady_call hook _) hjudge

theorem isSteady_withOperand (env : Environment Hook) (record : Value)
    (criterion : Criterion Hook) {next : Value → Attempt Hook CriterionResult}
    (hnext : ∀ operand, Attempt.IsSteady (next operand)) :
    Attempt.IsSteady (criterion.withOperand env record next) := by
  unfold withOperand
  refine Attempt.IsSteady.bind (isSteady_operandFor env record criterion) ?_
  intro operand
  split
  · refine Attempt.IsSteady.bind (Attempt.isSteady_call _ _) ?_
    intro passed
    exact Attempt.isSteady_pure _
  · exact Attempt.IsSteady.bind
      (Attempt.isSteady_lift (isSteady_normalizeFor criterion operand)) hnext

theorem isSteady_settle (criterion : Criterion Hook) {attempt : Attempt Hook CriterionResult}
    (h : Attempt.IsSteady attempt) : Work.IsSteady (criterion.settle attempt) := by
  unfold settle
  refine Work.IsSteady.bind h ?_
  intro answer
  cases answer with
  | ok result => exact Work.isSteady_pure result
  | error e =>
      exact Work.IsSteady.bind (Work.isSteady_record _)
        fun _ => Work.isSteady_pure _

theorem isSteady_evaluateAsIs (env : Environment Hook) (record : Value)
    (criterion : Criterion Hook) : Work.IsSteady (criterion.evaluateAsIs env record) :=
  isSteady_settle criterion <|
    isSteady_withOperand env record criterion (isSteady_testRecord env record criterion)

theorem isSteady_mapWith (env : Environment Hook) (record : Value) (criterion : Criterion Hook)
    (hook : Hook) (operand : Value) :
    Attempt.IsSteady (criterion.mapWith env record hook operand) := by
  unfold mapWith
  refine Attempt.IsSteady.bind (Attempt.isSteady_call _ _) ?_
  intro mapped
  refine Attempt.IsSteady.bind (Attempt.isSteady_lift (Work.isSteady_record _)) ?_
  intro _
  exact Attempt.isSteady_pure _

theorem isSteady_evaluate (env : Environment Hook) (record : Value)
    (criterion : Criterion Hook) : Work.IsSteady (criterion.evaluate env record) := by
  refine isSteady_settle criterion (isSteady_withOperand env record criterion ?_)
  intro operand
  split
  · exact isSteady_testRecord env record criterion operand
  · refine Attempt.IsSteady.bind (isSteady_mapWith env record criterion _ operand) ?_
    intro mapped
    exact Attempt.isSteady_lift (isSteady_evaluateAsIs env record mapped)

/-- What a criterion gives and calls is what it gives and calls on its own. -/
theorem evaluate_yields (env : Environment Hook) (record : Value) (alone : Workspace Hook)
    (criterion : Criterion Hook) :
    (criterion.evaluate env record).Yields (criterion.evaluate env record alone).1
      ((criterion.evaluate env record).callsFrom alone) :=
  (isSteady_evaluate env record criterion).isUniform.yields alone

end Criterion

end RecordFilter
