import RecordFilter.Proofs.Evaluation.Subjects

/-!
# Looking for keys

Tests for a key fold by default.  That folds the operand, but no keys: folding leaves the
keys of objects and maps as they are.  So what is looked for is the folded key, and a key that
is there is found only if its folded form is there as well.  A criterion that does not fold
finds every key.

The main statement says which keys are found.
-/

namespace RecordFilter

variable {Hook : Type}

/-! ## Keys of folded values -/

namespace Value

theorem isAmong_of_string {s : String} {items : List Value} :
    (string s).isAmong items = true ↔ string s ∈ items := by
  unfold isAmong
  rw [List.any_eq_true]
  constructor
  · rintro ⟨item, hitem, hagrees⟩
    cases item with
    | string t =>
        have hts : t = s := beq_iff_eq.mp hagrees
        rwa [hts] at hitem
    | _ => cases hagrees
  · intro hmem
    exact ⟨string s, hmem, beq_refl (string s)⟩

end Value

theorem Keyed.contains_iff_mem_keys {key : String} {fields : List (String × Value)} :
    Keyed.contains key fields = true ↔ key ∈ Keyed.keys fields :=
  Keyed.contains_iff.trans Keyed.mem_keys_iff.symm

theorem Criterion.form_object (criterion : Criterion Hook) (fields : List (String × Value)) :
    ∃ others, criterion.form (.object fields) = .object others ∧
      Keyed.keys others = Keyed.keys fields := by
  unfold form
  split
  · rw [Value.folded_object]
    refine ⟨_, rfl, ?_⟩
    rw [Keyed.keys, List.map_map]
    rfl
  · exact ⟨fields, rfl, rfl⟩

theorem Criterion.form_map (criterion : Criterion Hook) (entries : List (Value × Value)) :
    ∃ others, criterion.form (.map entries) = .map others ∧
      others.map Prod.fst = entries.map Prod.fst := by
  unfold form
  split
  · rw [Value.folded_map]
    refine ⟨_, rfl, ?_⟩
    rw [List.map_map]
    rfl
  · exact ⟨entries, rfl, rfl⟩

/-! ## Criteria that look for a key -/

namespace Criterion

def seeking (op : Operator) (path : Path) (key : String) (normalize : Bool) : Criterion Hook :=
  { ofLiteral op path (.string key) .undefined with normalize := normalize }

def soughtKey (normalize : Bool) (key : String) : String :=
  if normalize then foldText key else key

section

variable (env : Environment Hook) {record : Value} {path : Path} (key : String)
  (normalize : Bool) (w : Workspace Hook)

theorem seeking_passed (op : Operator) {v : Value}
    (hfound : (Path.resolve record path .undefined).value = v) (hv : ∀ items, v ≠ .array items) :
    let criterion : Criterion Hook := seeking op path key normalize
    (criterion.evaluate env record w).1.passed =
      op.holds env.now (criterion.form v) (.string (soughtKey normalize key)) := by
  intro criterion
  have hcalls : criterion.CallsNothing := ⟨⟨op, rfl⟩, nofun, rfl, rfl⟩
  have hoperand : criterion.form (.string key) = .string (soughtKey normalize key) := by
    cases normalize <;> rfl
  have hpassed := hcalls.evaluate_passed_of_ne_array rfl env hfound hv w
  rw [← hoperand]
  exact hpassed

theorem seeking_hasKey {fields : List (String × Value)}
    (hfound : (Path.resolve record path .undefined).value = .object fields) :
    ((seeking (.object .hasKey) path key normalize).evaluate env record w).1.passed = true ↔
      soughtKey normalize key ∈ Keyed.keys fields := by
  let criterion : Criterion Hook := seeking (.object .hasKey) path key normalize
  rcases criterion.form_object fields with ⟨others, hform, hkeys⟩
  rw [seeking_passed env key normalize w (.object .hasKey) hfound nofun, hform, ← hkeys]
  exact Keyed.contains_iff_mem_keys

theorem seeking_notHasKey {fields : List (String × Value)}
    (hfound : (Path.resolve record path .undefined).value = .object fields) :
    ((seeking (.object .notHasKey) path key normalize).evaluate env record w).1.passed = true ↔
      soughtKey normalize key ∉ Keyed.keys fields := by
  let criterion : Criterion Hook := seeking (.object .notHasKey) path key normalize
  rcases criterion.form_object fields with ⟨others, hform, hkeys⟩
  rw [seeking_passed env key normalize w (.object .notHasKey) hfound nofun, hform, ← hkeys,
    ← Keyed.contains_iff_mem_keys]
  show (!Keyed.contains (soughtKey normalize key) others) = true ↔ _
  rw [Bool.not_eq_true', Bool.eq_false_iff]

theorem seeking_hasKey_of_map {entries : List (Value × Value)}
    (hfound : (Path.resolve record path .undefined).value = .map entries) :
    ((seeking (.map .hasKey) path key normalize).evaluate env record w).1.passed = true ↔
      .string (soughtKey normalize key) ∈ entries.map Prod.fst := by
  let criterion : Criterion Hook := seeking (.map .hasKey) path key normalize
  rcases criterion.form_map entries with ⟨others, hform, hkeys⟩
  rw [seeking_passed env key normalize w (.map .hasKey) hfound nofun, hform, ← hkeys]
  exact Value.isAmong_of_string

end

end Criterion

/--
A test for a key passes if the folded form of the key is there, and its denial passes if it is
not.  If the criterion does not fold, that goes for the key itself, so that every key which is
there is found.
-/
theorem hasKey_finds_folded_key (env : Environment Hook) (engine : Engine Hook) (record : Value)
    (path : Path) (key : String) :
    let found := (Path.resolve record path .undefined).value
    let passes (criterion : Criterion Hook) : Prop :=
      (Engine.evaluate env record (.node (.criterion criterion)) engine).1.map Outcome.passed =
        .ok true
    let byDefault (op : Operator) : Criterion Hook :=
      .ofLiteral op path (.string key) .undefined
    let verbatim (op : Operator) : Criterion Hook := { byDefault op with normalize := false }
    (∀ fields, found = .object fields →
      (passes (byDefault (.object .hasKey)) ↔ foldText key ∈ Keyed.keys fields) ∧
      (passes (byDefault (.object .notHasKey)) ↔ foldText key ∉ Keyed.keys fields) ∧
      (passes (verbatim (.object .hasKey)) ↔ key ∈ Keyed.keys fields) ∧
      (passes (verbatim (.object .notHasKey)) ↔ key ∉ Keyed.keys fields)) ∧
    ∀ entries, found = .map entries →
      (passes (byDefault (.map .hasKey)) ↔ .string (foldText key) ∈ entries.map Prod.fst) ∧
      (passes (verbatim (.map .hasKey)) ↔ .string key ∈ entries.map Prod.fst) := by
  intro found passes byDefault verbatim
  have hpasses (criterion : Criterion Hook) :
      passes criterion ↔ (criterion.evaluate env record engine.workspace).1.passed = true := by
    simp only [passes, Engine.evaluate_criterion_passed, Except.ok.injEq]
  simp only [hpasses]
  constructor
  · intro fields hfound
    refine ⟨?_, ?_, ?_, ?_⟩
    · exact Criterion.seeking_hasKey env key true engine.workspace hfound
    · exact Criterion.seeking_notHasKey env key true engine.workspace hfound
    · exact Criterion.seeking_hasKey env key false engine.workspace hfound
    · exact Criterion.seeking_notHasKey env key false engine.workspace hfound
  · intro entries hfound
    constructor
    · exact Criterion.seeking_hasKey_of_map env key true engine.workspace hfound
    · exact Criterion.seeking_hasKey_of_map env key false engine.workspace hfound

theorem hasKey_finds_folded_key_beside :
    let env : Environment Empty := ⟨⟨nofun, nofun, nofun, nofun⟩, ⟨0, 0⟩, .undefined⟩
    let engine : Engine Empty := .start .default
    let fields : List (String × Value) := [("Full Name", .null), ("full-name", .null)]
    let record : Value := .object [("user", .object fields)]
    let passes (op : Operator) : Prop :=
      let criterion : Criterion Empty := .ofLiteral op ["user"] (.string "Full Name") .undefined
      (Engine.evaluate env record (.node (.criterion criterion)) engine).1.map Outcome.passed =
        .ok true
    (Path.resolve record ["user"] .undefined).value = .object fields ∧
      passes (.object .hasKey) ∧ ¬ passes (.object .notHasKey) := by
  intro env engine fields record passes
  have hfound : (Path.resolve record ["user"] .undefined).value = .object fields := by
    rw [Path.resolve_eq_resolved]
    rfl
  have hkey : foldText "Full Name" ∈ Keyed.keys fields := by
    decide +kernel
  have hlaw := (hasKey_finds_folded_key env engine record ["user"] "Full Name").1 fields hfound
  refine ⟨hfound, hlaw.1.mpr hkey, ?_⟩
  intro hdenied
  exact hlaw.2.1.mp hdenied hkey

/-- A key with a capital letter is there, and is not found. -/
theorem hasKey_misses_capital_key :
    let env : Environment Empty := ⟨⟨nofun, nofun, nofun, nofun⟩, ⟨0, 0⟩, .undefined⟩
    let engine : Engine Empty := .start .default
    let fields : List (String × Value) := [("Name", .null)]
    let entries : List (Value × Value) := [(.string "Name", .null)]
    let verdict (op : Operator) (record : Value) : Except FilterError Bool :=
      let criterion : Criterion Empty := .ofLiteral op [] (.string "Name") .undefined
      (Engine.evaluate env record (.node (.criterion criterion)) engine).1.map Outcome.passed
    ("Name" ∈ Keyed.keys fields ∧ verdict (.object .hasKey) (.object fields) = .ok false ∧
      verdict (.object .notHasKey) (.object fields) = .ok true) ∧
    .string "Name" ∈ entries.map Prod.fst ∧ verdict (.map .hasKey) (.map entries) = .ok false := by
  intro env engine fields entries verdict
  have hverdict (op : Operator) (record : Value) :
      let criterion : Criterion Empty := .ofLiteral op [] (.string "Name") .undefined
      verdict op record = .ok (criterion.evaluate env record engine.workspace).1.passed :=
    Engine.evaluate_criterion_passed env record _ engine
  have hfold : Criterion.soughtKey true "Name" = "name" := by
    decide +kernel
  have hobject : (Path.resolve (.object fields) [] .undefined).value = .object fields := by
    rw [Path.resolve_eq_resolved]
    rfl
  have hmap : (Path.resolve (.map entries) [] .undefined).value = .map entries := by
    rw [Path.resolve_eq_resolved]
    rfl
  have hseeks := Criterion.seeking_hasKey env "Name" true engine.workspace hobject
  have hdenies := Criterion.seeking_notHasKey env "Name" true engine.workspace hobject
  have hmapSeeks := Criterion.seeking_hasKey_of_map env "Name" true engine.workspace hmap
  rw [hfold] at hseeks hdenies hmapSeeks
  have hkey : "name" ∉ Keyed.keys fields := by
    simp [fields, Keyed.keys]
  have hmapKey : Value.string "name" ∉ entries.map Prod.fst := by
    simp [entries]
  refine ⟨⟨List.mem_cons_self, ?_, ?_⟩, List.mem_cons_self, ?_⟩
  · rw [hverdict]
    exact congrArg Except.ok (Bool.eq_false_iff.mpr fun hpassed => hkey (hseeks.mp hpassed))
  · rw [hverdict]
    exact congrArg Except.ok (hdenies.mpr hkey)
  · rw [hverdict]
    exact congrArg Except.ok (Bool.eq_false_iff.mpr fun hpassed => hmapKey (hmapSeeks.mp hpassed))

end RecordFilter
