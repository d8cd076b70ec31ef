import RecordFilter.CommandLine.Run
import RecordFilter.Proofs.Engine.Aliases
import RecordFilter.Proofs.Traversal

/-!
# Files of criteria to save

A file of criteria loads if each of them has an alias, which may be empty.  Saving asks for
more: an empty alias counts as none.  So what was loaded can be saved unless some alias is
empty, and then saving stops there, with the criteria before it saved already.

The main statement says when the criteria of a file that loads can be saved, what is saved
then, and that a run of the program goes on or stops accordingly.
-/

namespace RecordFilter

variable {Hook : Type}

/-! ## Loaded criteria -/

namespace FileText

theorem aliasName_of_aliased {json : Json} {position : Nat} {criterion : Criterion Hook}
    (h : aliased json position = .ok criterion) : criterion.aliasName.isSome = true := by
  rcases bind_eq_ok.mp h with ⟨read, _, hchecked⟩
  split at hchecked
  · next hname =>
      cases hchecked
      exact hname
  · cases hchecked

theorem aliasName_of_mem_aliases {file : FileText} {criteria : List (Criterion Hook)}
    (h : file.aliases = .ok criteria) {criterion : Criterion Hook} (hmem : criterion ∈ criteria) :
    ∃ aliasName, criterion.aliasName = some aliasName := by
  rcases bind_eq_ok.mp h with ⟨json, _, hread⟩
  cases json with
  | array items =>
      rcases exists_of_mem_mapM hread hmem with ⟨⟨json, position⟩, _, haliased⟩
      exact Option.isSome_iff_exists.mp (aliasName_of_aliased haliased)
  | _ => cases hread

end FileText

/-! ## Last criteria -/

namespace Criterion

def IsLast (criteria : List (Criterion Hook)) (aliasName : String) (last : Criterion Hook) :
    Prop :=
  last.aliasName = some aliasName ∧ ∃ before after, criteria = before ++ last :: after ∧
    ∀ criterion ∈ after, criterion.aliasName ≠ some aliasName

variable {criteria : List (Criterion Hook)} {aliasName : String}

theorem exists_isLast {criterion : Criterion Hook} (hmem : criterion ∈ criteria)
    (hname : criterion.aliasName = some aliasName) : ∃ last, IsLast criteria aliasName last := by
  induction criteria generalizing criterion with
  | nil => cases hmem
  | cons first rest ih =>
      by_cases hlater : ∃ c ∈ rest, c.aliasName = some aliasName
      · rcases hlater with ⟨c, hc, hcname⟩
        rcases ih hc hcname with ⟨last, hlast, before, after, hsplit, hafter⟩
        exact ⟨last, hlast, first :: before, after, congrArg _ hsplit, hafter⟩
      · have hrest : ∀ c ∈ rest, c.aliasName ≠ some aliasName := by
          intro c hc heq
          exact hlater ⟨c, hc, heq⟩
        cases List.mem_cons.mp hmem with
        | inl hfirst =>
            rw [hfirst] at hname
            exact ⟨first, hname, [], rest, rfl, hrest⟩
        | inr hlate => exact absurd hname (hrest criterion hlate)

theorem IsLast.leaves {last : Criterion Hook} (h : IsLast criteria aliasName last)
    (hnamed : ¬ last.IsAnonymous) :
    Change.Leaves (criteria.flatMap Change.ofSave) aliasName last := by
  rcases h with ⟨hname, before, after, hsplit, hafter⟩
  have hofSave : Change.ofSave last = [.saved aliasName last] := by
    have hne : aliasName ≠ "" := by
      intro hempty
      rw [hempty] at hname
      exact hnamed (.inr hname)
    rw [Change.ofSave, Registry.aliasName?_eq_some_iff.mpr ⟨hname, hne⟩]
  refine ⟨before.flatMap Change.ofSave, after.flatMap Change.ofSave, ?_, ?_⟩
  · rw [hsplit, List.flatMap_append, List.flatMap_cons, hofSave]
    rfl
  · intro change hchange hconcerns
    rcases List.mem_flatMap.mp hchange with ⟨criterion, hmem, hsave⟩
    unfold Change.ofSave at hsave
    split at hsave
    · next name hother =>
        rw [List.mem_singleton.mp hsave] at hconcerns
        have heq : name = aliasName := hconcerns
        rw [heq] at hother
        exact hafter criterion hmem (Registry.aliasName?_eq_some_iff.mp hother).1
    · cases hsave

end Criterion

/-! ## Saving what was loaded -/

namespace Engine

/-- How saving several criteria that all have an alias ends, which may be empty. -/
structure SavesNamed (engine : Engine Hook) (criteria : List (Criterion Hook)) : Prop where
  succeeds_iff :
    (saveAll criteria engine).1 = .ok () ↔ ∀ c ∈ criteria, c.aliasName ≠ some ""
  stored : (saveAll criteria engine).1 = .ok () → ∀ c ∈ criteria, ∃ aliasName last,
    c.aliasName = some aliasName ∧ Criterion.IsLast criteria aliasName last ∧
      (saveAll criteria engine).2.registry.lookup aliasName = some last
  stopped : ∀ before c after, criteria = before ++ c :: after →
    (∀ other ∈ before, other.aliasName ≠ some "") → c.aliasName = some "" →
      saveAll criteria engine = (.error .missingAlias, (before.mapM save engine).2)

variable {criteria : List (Criterion Hook)}

theorem registry_saveAll (hnamed : ∀ c ∈ criteria, ¬ c.IsAnonymous) (engine : Engine Hook) :
    (saveAll criteria engine).2.registry =
      (criteria.flatMap Change.ofSave).foldl Change.apply engine.registry := by
  have hall : criteria.takeWhile (¬ ·.IsAnonymous) = criteria := by
    have hpos : ∀ c ∈ criteria, decide (¬ c.IsAnonymous) = true := by
      intro c hc
      exact decide_eq_true (hnamed c hc)
    have hwhile := @List.takeWhile_append_of_pos _ _ criteria [] hpos
    rwa [List.append_nil, List.takeWhile_nil, List.append_nil] at hwhile
  rw [saveAll_eq, hall]
  exact registry_mapM registry_save criteria engine

theorem savesNamed (hnamed : ∀ c ∈ criteria, ∃ aliasName, c.aliasName = some aliasName)
    (engine : Engine Hook) : engine.SavesNamed criteria := by
  have hanonymous : ∀ c ∈ criteria, (c.IsAnonymous ↔ c.aliasName = some "") := by
    intro c hc
    constructor
    · intro h
      cases h with
      | inl hnone =>
          rcases hnamed c hc with ⟨aliasName, hname⟩
          rw [hname] at hnone
          cases hnone
      | inr hempty => exact hempty
    · exact Or.inr
  have hsucceeds : (saveAll criteria engine).1 = .ok () ↔
      ∀ c ∈ criteria, c.aliasName ≠ some "" := by
    rw [saveAll_eq]
    constructor
    · intro h c hc hempty
      rw [if_pos ⟨c, hc, .inr hempty⟩] at h
      cases h
    · intro h
      rw [if_neg]
      rintro ⟨c, hc, hanon⟩
      exact h c hc ((hanonymous c hc).mp hanon)
  refine ⟨hsucceeds, ?_, ?_⟩
  · intro hok c hc
    have hsavable : ∀ c ∈ criteria, ¬ c.IsAnonymous := by
      intro c hc hanon
      exact hsucceeds.mp hok c hc ((hanonymous c hc).mp hanon)
    rcases hnamed c hc with ⟨aliasName, hname⟩
    rcases Criterion.exists_isLast hc hname with ⟨last, hlast⟩
    have hmem : last ∈ criteria := by
      rcases hlast.2 with ⟨before, after, hsplit, _⟩
      rw [hsplit]
      exact List.mem_append_right before List.mem_cons_self
    refine ⟨aliasName, last, hname, hlast, ?_⟩
    rw [registry_saveAll hsavable, Change.lookup_foldl_apply]
    exact .inl (hlast.leaves (hsavable last hmem))
  · intro before c after hsplit hbefore hempty
    have hwhile : criteria.takeWhile (¬ ·.IsAnonymous) = before := by
      rw [hsplit, List.takeWhile_append_of_pos, List.takeWhile_cons_of_neg, List.append_nil]
      · simp [Criterion.IsAnonymous, hempty]
      · intro other hother
        have hmem : other ∈ criteria := by
          rw [hsplit]
          exact List.mem_append_left _ hother
        rw [decide_eq_true_iff, hanonymous other hmem]
        exact hbefore other hother
    have hexists : ∃ other ∈ criteria, other.IsAnonymous := by
      refine ⟨c, ?_, .inr hempty⟩
      rw [hsplit]
      exact List.mem_append_right before List.mem_cons_self
    rw [saveAll_eq, if_pos hexists, hwhile]

end Engine

/-! ## Runs of the program -/

theorem Arguments.saveAliases_eq {read : String → FileText} {arguments : Arguments}
    {name : String} {criteria : List (Criterion Empty)} (hname : arguments.aliases = some name)
    (hload : (read name).aliases = .ok criteria) (engine : Engine Empty) :
    let run := (arguments.saveAliases read).run engine
    let saved := Engine.saveAll criteria engine
    run.1 = saved.1.mapError Failure.ofError ∧ run.2.registry = saved.2.registry := by
  intro run saved
  have hrun : run = ((do
      RunM.require Failure.ofError saved.1
      let text := "Saved " ++ toString criteria.length ++ " aliases from " ++ name
      (Engine.work (Work.log .info text) : EngineM Empty Unit) : RunM Unit).run saved.2) := by
    show (arguments.saveAliases read).run engine = _
    unfold saveAliases
    rw [hname]
    simp only [hload]
    rfl
  rw [hrun]
  cases saved.1 with
  | error e => exact ⟨rfl, rfl⟩
  | ok done => exact ⟨rfl, rfl⟩

/--
The criteria of a file that loads can be saved exactly if none of their aliases is empty, and
then each alias stands for the last criterion that has it.  Otherwise those before the first
empty alias are saved.  A run of the program ends there or goes on, as saving does.
-/
theorem loaded_aliases_saved_iff (read : String → FileText) (name : String) :
    (∀ criteria : List (Criterion Hook), (read name).aliases = .ok criteria →
      ∀ engine : Engine Hook, engine.SavesNamed criteria) ∧
    ∀ (criteria : List (Criterion Empty)) (arguments : Arguments),
      arguments.aliases = some name → (read name).aliases = .ok criteria →
      ∀ engine : Engine Empty,
        let run := (arguments.saveAliases read).run engine
        let saved := Engine.saveAll criteria engine
        (run.1 = .ok () ↔ ∀ c ∈ criteria, c.aliasName ≠ some "") ∧
          run.1 = saved.1.mapError Failure.ofError ∧ run.2.registry = saved.2.registry := by
  constructor
  · intro criteria hload engine
    apply Engine.savesNamed
    intro c hc
    exact FileText.aliasName_of_mem_aliases hload hc
  · intro criteria arguments hname hload engine run saved
    have hnamed : ∀ c ∈ criteria, ∃ aliasName, c.aliasName = some aliasName := by
      intro c hc
      exact FileText.aliasName_of_mem_aliases hload hc
    have hrun := Arguments.saveAliases_eq hname hload engine
    refine ⟨?_, hrun⟩
    rw [← (Engine.savesNamed hnamed engine).succeeds_iff]
    show run.1 = .ok () ↔ saved.1 = .ok ()
    rw [show run.1 = _ from hrun.1]
    cases saved.1 with
    | error e => simp [Except.mapError]
    | ok done => simp [Except.mapError]

theorem loaded_aliases_saved_iff_of_repeated :
    let read : String → FileText := fun _ => .ok
      "[\x7b\"alias\":\"present\",\"type\":\"BOOLEAN\",\"operator\":\"IS-NOT-NIL\"\x7d,
        \x7b\"alias\":\"present\",\"type\":\"BOOLEAN\",\"operator\":\"IS-DEFINED\"\x7d]"
    let arguments := { Arguments.initial with aliases := some "aliases.json" }
    let engine : Engine Empty := Engine.start .default
    ∃ criteria : List (Criterion Empty), (read "aliases.json").aliases = .ok criteria ∧
      ((arguments.saveAliases read).run engine).1 = .ok () ∧
      ∃ last, Criterion.IsLast criteria "present" last ∧
        (Engine.saveAll criteria engine).2.registry.lookup "present" = some last := by
  intro read arguments engine
  have hnames : ((read "aliases.json").aliases : Except _ (List (Criterion Empty))).toOption.map
      (List.map Criterion.aliasName) = some [some "present", some "present"] := by
    decide +kernel
  cases hload : ((read "aliases.json").aliases : Except _ (List (Criterion Empty))) with
  | error e =>
      rw [hload] at hnames
      cases hnames
  | ok criteria =>
      rw [hload] at hnames
      have hmap : criteria.map Criterion.aliasName = [some "present", some "present"] :=
        Option.some.inj hnames
      rcases List.map_eq_cons_iff.mp hmap with ⟨first, rest, hcriteria, hfirst, hrest⟩
      have hmem : first ∈ criteria := by
        rw [hcriteria]
        exact List.mem_cons_self
      have hall : ∀ c ∈ criteria, c.aliasName ≠ some "" := by
        intro c hc
        have hname : c.aliasName ∈ criteria.map Criterion.aliasName := List.mem_map_of_mem hc
        rw [hmap] at hname
        simp at hname
        simp [hname]
      have hsaved := (@loaded_aliases_saved_iff Empty read "aliases.json").1 criteria hload engine
      have hrun := (@loaded_aliases_saved_iff Empty read "aliases.json").2 criteria arguments rfl
        hload engine
      rcases hsaved.stored (hsaved.succeeds_iff.mpr hall) first hmem with
        ⟨aliasName, last, hname, hlast, hlookup⟩
      rw [hfirst] at hname
      cases hname
      exact ⟨criteria, rfl, hrun.1.mpr hall, last, hlast, hlookup⟩

/-- A file that loads, and is saved only in part because its second alias is empty. -/
theorem loaded_aliases_not_saved :
    let file : FileText := .ok
      "[\x7b\"alias\":\"present\",\"type\":\"BOOLEAN\",\"operator\":\"IS-NOT-NIL\"\x7d,
        \x7b\"alias\":\"\",\"type\":\"BOOLEAN\",\"operator\":\"IS-DEFINED\"\x7d]"
    let arguments := { Arguments.initial with aliases := some "aliases.json", inspect := true }
    let engine : Engine Empty := Engine.start .default
    (∃ criteria : List (Criterion Empty), file.aliases = .ok criteria ∧
      (Engine.saveAll criteria engine).1 = .error .missingAlias ∧
      Keyed.keys (Engine.saveAll criteria engine).2.registry = ["present"]) ∧
    (arguments.run (fun _ => file) ⟨0, 0⟩).1.errors =
      "Error: Cannot save a criterion without an alias\n" := by
  intro file arguments engine
  constructor
  · have hnames : (file.aliases : Except _ (List (Criterion Empty))).toOption.map
        (List.map Criterion.aliasName) = some [some "present", some ""] := by
      decide +kernel
    cases hload : (file.aliases : Except _ (List (Criterion Empty))) with
    | error e =>
        rw [hload] at hnames
        cases hnames
    | ok criteria =>
        rw [hload] at hnames
        rcases List.map_eq_cons_iff.mp (Option.some.inj hnames) with ⟨c, rest, rfl, hc, hrest⟩
        rcases List.map_eq_cons_iff.mp hrest with ⟨d, others, rfl, hd, _⟩
        have hname : Registry.aliasName? c = some "present" :=
          Registry.aliasName?_eq_some_iff.mpr ⟨hc, by decide⟩
        have hsave := Engine.save_of_aliasName? hname engine
        have hstop := Engine.save_of_isAnonymous (.inr hd) (Engine.save c engine).2
        have hboth : Engine.saveAll (c :: d :: others) engine =
            (.error .missingAlias, (Engine.save c engine).2) := by
          rw [Engine.saveAll, bind_apply, hsave.1]
          show Engine.saveAll (d :: others) (Engine.save c engine).2 = _
          rw [Engine.saveAll, bind_apply, hstop]
          rfl
        refine ⟨_, rfl, ?_, ?_⟩
        · rw [hboth]
        · rw [hboth, hsave.2]
          rfl
  · decide +kernel

end RecordFilter
