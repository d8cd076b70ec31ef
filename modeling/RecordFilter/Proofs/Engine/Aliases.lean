import RecordFilter.Engine.Basic

/-!
# The saved criteria as a finite map

Whatever is saved, removed and cleared, one after another, comes down to changes of single
aliases.  What is saved under an alias in the end is told by the last change that concerns the
alias: it is there if that is a save, and not if it is anything else.

The main statement says this of all sequences of edits of a fresh engine, and of everything
that can be asked about the saved criteria: single ones, references to them, their names.
-/

namespace RecordFilter

variable {Hook : Type}

/-! ## Edits -/

inductive Edit (Hook : Type) where
  | save (criterion : Criterion Hook)
  | saveAll (criteria : List (Criterion Hook))
  | remove (aliasName : String)
  | clear

inductive EditReply where
  | saved (result : Except FilterError Unit)
  | removed (found : Bool)
  | cleared

def Edit.run : Edit Hook → EngineM Hook EditReply
  | .save criterion => do return .saved (← Engine.save criterion)
  | .saveAll criteria => do return .saved (← Engine.saveAll criteria)
  | .remove aliasName => do return .removed (← Engine.remove aliasName)
  | .clear => do
      Engine.clear
      return .cleared

/-- There is no alias to save the criterion under: it is missing or empty. -/
def Criterion.IsAnonymous (criterion : Criterion Hook) : Prop :=
  criterion.aliasName = none ∨ criterion.aliasName = some ""

instance (criterion : Criterion Hook) : Decidable criterion.IsAnonymous :=
  inferInstanceAs (Decidable (_ ∨ _))

namespace Registry

theorem aliasName?_of_isAnonymous {criterion : Criterion Hook} (h : criterion.IsAnonymous) :
    aliasName? criterion = none := by
  unfold aliasName?
  cases h with
  | inl hnone =>
      rw [hnone]
      rfl
  | inr hempty =>
      rw [hempty]
      rfl

theorem aliasName?_eq_some_iff {criterion : Criterion Hook} {aliasName : String} :
    aliasName? criterion = some aliasName ↔
      criterion.aliasName = some aliasName ∧ aliasName ≠ "" := by
  unfold aliasName?
  rw [Option.filter_eq_some_iff, bne_iff_ne]

theorem exists_aliasName? {criterion : Criterion Hook} (h : ¬ criterion.IsAnonymous) :
    ∃ aliasName, aliasName? criterion = some aliasName := by
  cases hname : criterion.aliasName with
  | none => exact absurd (.inl hname) h
  | some aliasName =>
      refine ⟨aliasName, aliasName?_eq_some_iff.mpr ⟨hname, ?_⟩⟩
      intro hempty
      rw [hempty] at hname
      exact h (.inr hname)

end Registry

/-! ## Changes -/

inductive Change (Hook : Type) where
  | saved (aliasName : String) (criterion : Criterion Hook)
  | removed (aliasName : String)
  | cleared

namespace Change

def ofSave (criterion : Criterion Hook) : List (Change Hook) :=
  match Registry.aliasName? criterion with
  | some aliasName => [.saved aliasName criterion]
  | none => []

def apply (registry : Registry Hook) : Change Hook → Registry Hook
  | .saved aliasName criterion => Keyed.insert aliasName criterion registry
  | .removed aliasName => Keyed.erase aliasName registry
  | .cleared => []

def Concerns (aliasName : String) : Change Hook → Prop
  | .saved other _ => other = aliasName
  | .removed other => other = aliasName
  | .cleared => True

/-- The last change that concerns an alias is the save of a criterion under it. -/
def Leaves (changes : List (Change Hook)) (aliasName : String) (criterion : Criterion Hook) :
    Prop :=
  ∃ before after, changes = before ++ .saved aliasName criterion :: after ∧
    ∀ change ∈ after, ¬ change.Concerns aliasName

variable {registry : Registry Hook} {changes : List (Change Hook)} {change : Change Hook}
  {aliasName : String} {criterion : Criterion Hook}

theorem leaves_cons :
    Leaves (change :: changes) aliasName criterion ↔
      Leaves changes aliasName criterion ∨
        change = .saved aliasName criterion ∧ ∀ later ∈ changes, ¬ later.Concerns aliasName := by
  constructor
  · intro h
    rcases h with ⟨before, after, hsplit, hafter⟩
    cases before with
    | nil =>
        cases hsplit
        exact .inr ⟨rfl, hafter⟩
    | cons first rest =>
        cases hsplit
        exact .inl ⟨rest, after, rfl, hafter⟩
  · intro h
    cases h with
    | inl hleaves =>
        rcases hleaves with ⟨before, after, hsplit, hafter⟩
        exact ⟨change :: before, after, congrArg _ hsplit, hafter⟩
    | inr hfirst =>
        rcases hfirst with ⟨rfl, hafter⟩
        exact ⟨[], changes, rfl, hafter⟩

/-! ### Single changes -/

theorem lookup_apply :
    (apply registry change).lookup aliasName = some criterion ↔
      change = .saved aliasName criterion ∨
        ¬ change.Concerns aliasName ∧ registry.lookup aliasName = some criterion := by
  cases change with
  | saved other new =>
      by_cases h : other = aliasName
      · simp [apply, Concerns, h]
      · simp [apply, Concerns, h, Keyed.lookup_insert_of_ne (Ne.symm h)]
  | removed other =>
      by_cases h : other = aliasName
      · simp [apply, Concerns, h, Keyed.lookup_erase_self]
      · simp [apply, Concerns, h, Keyed.lookup_erase_of_ne (Ne.symm h)]
  | cleared => simp [apply, Concerns]

theorem ascends_apply (h : Keyed.Ascends registry) : Keyed.Ascends (apply registry change) := by
  cases change with
  | saved other new => exact h.insert other new
  | removed other => exact h.erase other
  | cleared => exact List.Pairwise.nil

theorem mem_apply {entry : String × Criterion Hook} (h : entry ∈ apply registry change) :
    change = .saved entry.1 entry.2 ∨ entry ∈ registry := by
  cases change with
  | saved other new =>
      cases Keyed.mem_insert h with
      | inl hentry =>
          rw [hentry]
          exact .inl rfl
      | inr hmem => exact .inr hmem
  | removed other => exact .inr (List.mem_filter.mp h).1
  | cleared => cases h

/-! ### Histories -/

theorem lookup_foldl_apply :
    (changes.foldl apply registry).lookup aliasName = some criterion ↔
      Leaves changes aliasName criterion ∨
        (∀ change ∈ changes, ¬ change.Concerns aliasName) ∧
          registry.lookup aliasName = some criterion := by
  induction changes generalizing registry with
  | nil =>
      constructor
      · intro h
        refine .inr ⟨?_, h⟩
        intro change hmem
        cases hmem
      · intro h
        cases h with
        | inl hleaves =>
            rcases hleaves with ⟨before, after, hsplit, _⟩
            cases before <;> cases hsplit
        | inr hkept => exact hkept.2
  | cons change rest ih =>
      rw [List.foldl_cons, ih, lookup_apply, leaves_cons, List.forall_mem_cons, or_assoc]
      refine or_congr_right ?_
      rw [and_or_left, and_comm, and_left_comm, and_assoc]

theorem ascends_foldl_apply (h : Keyed.Ascends registry) :
    Keyed.Ascends (changes.foldl apply registry) := by
  induction changes generalizing registry with
  | nil => exact h
  | cons change rest ih => exact ih (ascends_apply h)

theorem mem_foldl_apply {entry : String × Criterion Hook}
    (h : entry ∈ changes.foldl apply registry) :
    .saved entry.1 entry.2 ∈ changes ∨ entry ∈ registry := by
  induction changes generalizing registry with
  | nil => exact .inr h
  | cons change rest ih =>
      cases ih h with
      | inl hsaved => exact .inl (List.mem_cons_of_mem change hsaved)
      | inr hmem =>
          cases mem_apply hmem with
          | inl hchange =>
              rw [hchange]
              exact .inl List.mem_cons_self
          | inr hbefore => exact .inr hbefore

end Change

def Edit.changes : Edit Hook → List (Change Hook)
  | .save criterion => Change.ofSave criterion
  | .saveAll criteria => (criteria.takeWhile (¬ ·.IsAnonymous)).flatMap Change.ofSave
  | .remove aliasName => [.removed aliasName]
  | .clear => [.cleared]

theorem Edit.alias_of_mem_changes {edits : List (Edit Hook)} {aliasName : String}
    {criterion : Criterion Hook}
    (h : Change.saved aliasName criterion ∈ edits.flatMap Edit.changes) :
    aliasName ≠ "" ∧ criterion.aliasName = some aliasName := by
  have hsave : ∀ c : Criterion Hook, Change.saved aliasName criterion ∈ Change.ofSave c →
      aliasName ≠ "" ∧ criterion.aliasName = some aliasName := by
    intro c hc
    unfold Change.ofSave at hc
    split at hc
    · next name hname =>
        cases List.mem_singleton.mp hc
        exact (Registry.aliasName?_eq_some_iff.mp hname).symm
    · cases hc
  rcases List.mem_flatMap.mp h with ⟨edit, _, hmem⟩
  cases edit with
  | save c => exact hsave c hmem
  | saveAll criteria =>
      rcases List.mem_flatMap.mp hmem with ⟨c, _, hc⟩
      exact hsave c hc
  | remove name => cases List.mem_singleton.mp hmem
  | clear => cases List.mem_singleton.mp hmem

/-! ## Engines -/

namespace Engine

theorem save_of_isAnonymous {criterion : Criterion Hook} (h : criterion.IsAnonymous)
    (engine : Engine Hook) : save criterion engine = (.error .missingAlias, engine) := by
  rw [save, bind_apply, get_apply, Registry.save, Registry.aliasName?_of_isAnonymous h]
  rfl

theorem save_of_aliasName? {criterion : Criterion Hook} {aliasName : String}
    (h : Registry.aliasName? criterion = some aliasName) (engine : Engine Hook) :
    (save criterion engine).1 = .ok () ∧
      (save criterion engine).2.registry = Keyed.insert aliasName criterion engine.registry := by
  rw [save, bind_apply, get_apply, Registry.save, h]
  constructor
  · rfl
  · rfl

theorem save_fst {criterion : Criterion Hook} (h : ¬ criterion.IsAnonymous)
    (engine : Engine Hook) : (save criterion engine).1 = .ok () := by
  rcases Registry.exists_aliasName? h with ⟨aliasName, hname⟩
  exact (save_of_aliasName? hname engine).1

theorem registry_save (criterion : Criterion Hook) (engine : Engine Hook) :
    (save criterion engine).2.registry =
      (Change.ofSave criterion).foldl Change.apply engine.registry := by
  by_cases h : criterion.IsAnonymous
  · rw [save_of_isAnonymous h, Change.ofSave, Registry.aliasName?_of_isAnonymous h]
    rfl
  · rcases Registry.exists_aliasName? h with ⟨aliasName, hname⟩
    rw [(save_of_aliasName? hname engine).2, Change.ofSave, hname]
    rfl

theorem saveAll_eq (criteria : List (Criterion Hook)) (engine : Engine Hook) :
    saveAll criteria engine =
      (if ∃ criterion ∈ criteria, criterion.IsAnonymous then .error .missingAlias else .ok (),
        ((criteria.takeWhile (¬ ·.IsAnonymous)).mapM save engine).2) := by
  induction criteria generalizing engine with
  | nil => simp [saveAll, pure_apply]
  | cons criterion rest ih =>
      rw [saveAll, bind_apply]
      by_cases h : criterion.IsAnonymous
      · rw [save_of_isAnonymous h]
        simp [h, pure_apply]
      · have hexists : (∃ c ∈ criterion :: rest, c.IsAnonymous) ↔ ∃ c ∈ rest, c.IsAnonymous := by
          simp [h]
        have hwhile : (criterion :: rest).takeWhile (¬ ·.IsAnonymous) =
            criterion :: rest.takeWhile (¬ ·.IsAnonymous) := by
          simp [h]
        rw [save_fst h, hwhile, List.mapM_cons]
        simp only [hexists]
        exact ih _

theorem registry_mapM {α β : Type} {task : α → EngineM Hook β} {changes : α → List (Change Hook)}
    (h : ∀ x engine, (task x engine).2.registry = (changes x).foldl Change.apply engine.registry)
    (xs : List α) (engine : Engine Hook) :
    (xs.mapM task engine).2.registry =
      (xs.flatMap changes).foldl Change.apply engine.registry := by
  induction xs generalizing engine with
  | nil => rfl
  | cons x rest ih =>
      rw [List.mapM_cons, List.flatMap_cons, List.foldl_append, ← h]
      exact ih _

theorem registry_run (edit : Edit Hook) (engine : Engine Hook) :
    (edit.run engine).2.registry = edit.changes.foldl Change.apply engine.registry := by
  cases edit with
  | save criterion => exact registry_save criterion engine
  | saveAll criteria =>
      show (saveAll criteria engine).2.registry = _
      rw [saveAll_eq]
      exact registry_mapM registry_save _ engine
  | remove aliasName => rfl
  | clear => rfl

end Engine

/-! ## The map -/

/-- Whatever is asked about the saved criteria, the answer is what the changes leave. -/
structure Registry.Reflects (registry : Registry Hook) (changes : List (Change Hook)) : Prop where
  ownAlias : ∀ entry ∈ registry, entry.1 ≠ "" ∧ entry.2.aliasName = some entry.1
  get : ∀ aliasName criterion,
    registry.lookup aliasName = some criterion ↔ Change.Leaves changes aliasName criterion
  contains : ∀ aliasName,
    Keyed.contains aliasName registry = true ↔ ∃ c, Change.Leaves changes aliasName c
  resolve : ∀ reference criterion, Change.Leaves changes reference.aliasName criterion →
    registry.resolve reference = reference.applyTo criterion
  unresolved : ∀ reference, (∀ c, ¬ Change.Leaves changes reference.aliasName c) →
    registry.resolve reference = .error (.aliasNotFound reference.aliasName)
  names : ∀ aliasName,
    aliasName ∈ Keyed.keys registry ↔ ∃ c, Change.Leaves changes aliasName c
  ascending : (Keyed.keys registry).Pairwise (· < ·)
  length : registry.length = (Keyed.keys registry).length

theorem Registry.resolve_of_none {registry : Registry Hook} {reference : Reference Hook}
    (h : registry.lookup reference.aliasName = none) :
    registry.resolve reference = .error (.aliasNotFound reference.aliasName) := by
  rw [resolve, h]

theorem Registry.resolve_of_some {registry : Registry Hook} {reference : Reference Hook}
    {saved : Criterion Hook} (h : registry.lookup reference.aliasName = some saved) :
    registry.resolve reference = reference.applyTo saved := by
  rw [resolve, h]

theorem Registry.reflects_changes {changes : List (Change Hook)}
    (h : ∀ aliasName criterion, .saved aliasName criterion ∈ changes →
      aliasName ≠ "" ∧ criterion.aliasName = some aliasName) :
    Registry.Reflects (changes.foldl Change.apply []) changes := by
  have hget : ∀ aliasName criterion, (changes.foldl Change.apply []).lookup aliasName =
      some criterion ↔ Change.Leaves changes aliasName criterion := by
    intro aliasName criterion
    rw [Change.lookup_foldl_apply]
    constructor
    · intro hleft
      cases hleft with
      | inl hleaves => exact hleaves
      | inr hbefore => cases hbefore.2
    · exact Or.inl
  refine {
    ownAlias := ?_, get := hget, contains := ?_, resolve := ?_, unresolved := ?_, names := ?_
    ascending := Change.ascends_foldl_apply List.Pairwise.nil
    length := (List.length_map Prod.fst).symm }
  · intro entry hentry
    cases Change.mem_foldl_apply hentry with
    | inl hsaved => exact h entry.1 entry.2 hsaved
    | inr hbefore => cases hbefore
  · intro aliasName
    rw [Keyed.contains_iff]
    exact exists_congr (hget aliasName)
  · intro reference criterion hleaves
    exact Registry.resolve_of_some ((hget _ _).mpr hleaves)
  · intro reference hnone
    apply Registry.resolve_of_none
    rw [Option.eq_none_iff_forall_ne_some]
    intro criterion hlookup
    exact hnone criterion ((hget _ _).mp hlookup)
  · intro aliasName
    rw [Keyed.mem_keys_iff]
    exact exists_congr (hget aliasName)

/--
However a fresh engine is edited, its saved criteria are a finite map that tells the last save
under each alias since it was last removed or cleared.  On any engine a criterion is saved
unless it is anonymous, which leaves the engine as it is, and many criteria are saved up to the
first anonymous one.
-/
theorem edits_make_finite_map (settings : Settings) (edits : List (Edit Hook)) :
    (edits.mapM Edit.run (Engine.start settings)).2.registry.Reflects (edits.flatMap Edit.changes) ∧
      ∀ engine : Engine Hook,
        (∀ criterion : Criterion Hook,
          (criterion.IsAnonymous →
            Engine.save criterion engine = (.error .missingAlias, engine)) ∧
          (¬ criterion.IsAnonymous → (Engine.save criterion engine).1 = .ok ())) ∧
        ∀ criteria : List (Criterion Hook),
          Engine.saveAll criteria engine =
            (if ∃ criterion ∈ criteria, criterion.IsAnonymous then .error .missingAlias
              else .ok (),
              ((criteria.takeWhile (¬ ·.IsAnonymous)).mapM Engine.save engine).2) := by
  constructor
  · rw [Engine.registry_mapM Engine.registry_run]
    apply Registry.reflects_changes
    intro aliasName criterion hmem
    exact Edit.alias_of_mem_changes hmem
  · intro engine
    constructor
    · intro criterion
      constructor
      · intro h
        exact Engine.save_of_isAnonymous h engine
      · intro h
        exact Engine.save_fst h engine
    · intro criteria
      exact Engine.saveAll_eq criteria engine

theorem edits_make_finite_map_of_overwritten :
    let named (aliasName : String) (path : Path) : Criterion Empty :=
      { Criterion.ofTest (.operator (.boolean .isNotNil)) .undefined with
        aliasName := some aliasName, path := path }
    let edits : List (Edit Empty) := [.save (named "b" ["x"]),
      .saveAll [named "a" [], named "b" ["y"], named "" [], named "c" []], .remove "a"]
    let engine := (edits.mapM Edit.run (Engine.start .default)).2
    (named "" []).IsAnonymous ∧
      Engine.save (named "" []) engine = (.error .missingAlias, engine) ∧
      Change.Leaves (edits.flatMap Edit.changes) "b" (named "b" ["y"]) ∧
      engine.registry.lookup "b" = some (named "b" ["y"]) ∧
      engine.registry.resolve (.ofAlias "b") = (Reference.ofAlias "b").applyTo (named "b" ["y"]) ∧
      Keyed.keys engine.registry = ["b"] := by
  intro named edits engine
  have hmap := edits_make_finite_map .default edits
  have hanonymous : (named "" []).IsAnonymous := .inr rfl
  have hleaves : Change.Leaves (edits.flatMap Edit.changes) "b" (named "b" ["y"]) := by
    refine ⟨[.saved "b" (named "b" ["x"]), .saved "a" (named "a" [])], [.removed "a"], rfl, ?_⟩
    intro change hmem
    rw [List.mem_singleton.mp hmem]
    simp [Change.Concerns]
  refine ⟨hanonymous, ((hmap.2 engine).1 _).1 hanonymous, hleaves, ?_, ?_, rfl⟩
  · exact (hmap.1.get "b" _).mpr hleaves
  · exact hmap.1.resolve (.ofAlias "b") _ hleaves

end RecordFilter
