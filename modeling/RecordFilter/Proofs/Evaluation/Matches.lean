import RecordFilter.Proofs.Evaluation.Subjects
import RecordFilter.Proofs.Operator.Part
import RecordFilter.Proofs.Text.Sigma

/-!
# Matches that folding keeps

A criterion that looks for a part of a text passes more often if it folds, as a rule: what the
text had in it, the folded text has in it.  The rule has two exceptions.  A value that is no
string shows its own text while the part is folded, and a capital sigma may be written
differently in the part and in the text.

The main statement is that no match is lost where neither of them applies, and that each of
them loses a match.
-/

namespace RecordFilter

variable {Hook : Type}

namespace Criterion

def asking (op : StringOperator) (part : String) (path : Path) (default : Value)
    (matchInArray normalize : Bool) : Criterion Hook :=
  { ofLiteral (.string op) path (.string part) default with
    matchInArray := matchInArray
    normalize := normalize }

/-- The values of a record that a criterion tests, as they stand in the record. -/
def tested (criterion : Criterion Hook) (record : Value) : List Value :=
  let found := Path.resolve record criterion.path criterion.default
  criterion.subjects found.branched found.value

section Asking

variable {op : StringOperator} {margins : Margins} (h : op.margins? = some margins)
  (env : Environment Hook) (part : String) (path : Path) (default : Value) (matchInArray : Bool)
  (record : Value) (w : Workspace Hook)

theorem asking_callsNothing (normalize : Bool) :
    (asking op part path default matchInArray normalize : Criterion Hook).CallsNothing :=
  ⟨⟨_, rfl⟩, nofun, rfl, rfl⟩

theorem asking_passed_folded :
    ((asking op part path default matchInArray true).evaluate env record w).1.passed = true ↔
      ∃ v ∈ (asking op part path default matchInArray false : Criterion Hook).tested record,
        op.holds v.folded (Value.string part).folded = true := by
  let criterion : Criterion Hook := asking op part path default matchInArray true
  have hcalls : criterion.CallsNothing := asking_callsNothing part path default matchInArray true
  have hform : ∀ v, criterion.form v = v.folded := fun v => if_pos rfl
  rw [hcalls.evaluate_passed rfl env record w, subjects_form, List.any_map, List.any_eq_true]
  simp only [Function.comp_apply, hform]
  rfl

include h

theorem asking_passed_iff_verbatim :
    let criterion : Criterion Hook := asking op part path default matchInArray false
    (criterion.evaluate env record w).1.passed = true ↔
      ∃ v ∈ criterion.tested record,
        v.isNil = false ∧ margins.Occurs part.toList v.display.toList := by
  intro criterion
  have hcalls : criterion.CallsNothing := asking_callsNothing part path default matchInArray false
  rw [hcalls.evaluate_passed rfl env record w, List.any_eq_true]
  apply exists_congr
  intro v
  exact and_congr_right fun _ => op.holds_iff h v part

theorem asking_passed_iff_folded :
    ((asking op part path default matchInArray true).evaluate env record w).1.passed = true ↔
      ∃ v ∈ (asking op part path default matchInArray false : Criterion Hook).tested record,
        v.isNil = false ∧ margins.Occurs (foldChars part.toList) v.folded.display.toList := by
  rw [asking_passed_folded env part path default matchInArray record w]
  apply exists_congr
  intro v
  apply and_congr_right
  intro _
  rw [Value.folded_string, op.holds_iff h, Value.isNil_folded, foldText, String.toList_ofList]

theorem asking_keeps
    (hkeeps : ∀ v ∈ (asking op part path default matchInArray false : Criterion Hook).tested record,
      op.holds v (.string part) = true → v.Keeps margins part)
    (hpassed : ((asking op part path default matchInArray false).evaluate env record w).1.passed =
      true) :
    ((asking op part path default matchInArray true).evaluate env record w).1.passed = true := by
  rcases (asking_passed_iff_verbatim h env part path default matchInArray record w).mp hpassed with
    ⟨v, hv, hnil, hoccurs⟩
  apply (asking_passed_iff_folded h env part path default matchInArray record w).mpr
  have hholds := (op.holds_iff h v part).mpr ⟨hnil, hoccurs⟩
  exact ⟨v, hv, hnil, (hkeeps v hv hholds).occurs hoccurs⟩

end Asking

section Whole

variable {op : StringOperator} {margins : Margins} (h : op.margins? = some margins)
  (env : Environment Hook) (part : String) {matchInArray : Bool} {v : Value}
  (hwhole : matchInArray = true → v.array? = none) (w : Workspace Hook)

include hwhole

theorem tested_whole (normalize : Bool) :
    (asking op part [] .undefined matchInArray normalize : Criterion Hook).tested v = [v] := by
  have hfound : Path.resolve v [] .undefined = ⟨v, false⟩ := by
    rw [Path.resolve_eq_resolved]
    rfl
  unfold tested
  simp only [asking, ofLiteral, hfound]
  cases v with
  | array items =>
      cases matchInArray with
      | true => cases hwhole rfl
      | false => rfl
  | _ => rfl

include h

/-- A part that only the verbatim text has in it is lost. -/
theorem asking_loses (hnil : v.isNil = false)
    (hoccurs : margins.Occurs part.toList v.display.toList)
    (hlost : ¬ margins.Occurs (foldChars part.toList) v.folded.display.toList) :
    ((asking op part [] .undefined matchInArray false).evaluate env v w).1.passed = true ∧
      ((asking op part [] .undefined matchInArray true).evaluate env v w).1.passed = false := by
  constructor
  · apply (asking_passed_iff_verbatim h env part [] .undefined matchInArray v w).mpr
    rw [tested_whole part hwhole false]
    exact ⟨v, List.mem_singleton_self v, hnil, hoccurs⟩
  · rw [← Bool.not_eq_true]
    intro hpassed
    rcases (asking_passed_iff_folded h env part [] .undefined matchInArray v w).mp hpassed with
      ⟨u, hu, -, hkept⟩
    rw [tested_whole part hwhole false] at hu
    rw [List.mem_singleton.mp hu] at hkept
    exact hlost hkept

end Whole

end Criterion

/--
A criterion that folds passes exactly if the folded part is found in a folded value.  Folding loses
no match of a value that shows its folded text, for a part whose sigmas are settled, nor one of a
value that folding leaves alone, for a part that has its folded form in it.  A value that does not
show its folded text loses its whole text, and a part with a sigma that is not settled is lost in
some string.

Strings and booleans show their folded text, and so do finite numbers, but for the sign of a
negative one.
-/
theorem folding_keeps_matches (env : Environment Hook) (engine : Engine Hook) {op : StringOperator}
    {margins : Margins} (h : op.margins? = some margins) :
    let verdict (criterion : Criterion Hook) (record : Value) : Except FilterError Bool :=
      (Engine.evaluate env record (.node (.criterion criterion)) engine).1.map Outcome.passed
    (∀ part path default matchInArray record,
      let asking (normalize : Bool) : Criterion Hook :=
        .asking op part path default matchInArray normalize
      (verdict (asking true) record = .ok true ↔
        ∃ v ∈ (asking false).tested record, op.holds v.folded (Value.string part).folded = true) ∧
      ((∀ v ∈ (asking false).tested record, op.holds v (.string part) = true →
          v.Keeps margins part) →
        verdict (asking false) record = .ok true → verdict (asking true) record = .ok true)) ∧
    (∀ (v : Value) matchInArray, (matchInArray = true → v.array? = none) → v.isNil = false →
      ¬ v.ShowsFolded margins →
      let asking (normalize : Bool) : Criterion Hook :=
        .asking op v.display [] .undefined matchInArray normalize
      verdict (asking false) v = .ok true ∧ verdict (asking true) v = .ok false) ∧
    (∀ (part : String) matchInArray, ¬ margins.Settles part.toList →
      ∃ text : String,
        let asking (normalize : Bool) : Criterion Hook :=
          .asking op part [] .undefined matchInArray normalize
        verdict (asking false) (.string text) = .ok true ∧
          verdict (asking true) (.string text) = .ok false) ∧
    (∀ part : String, 'Σ' ∉ part.toList → margins.Settles part.toList) ∧
    (∀ s, (Value.string s).ShowsFolded margins) ∧
    (∀ b, (Value.boolean b).ShowsFolded margins) ∧
    ∀ n : Number, n.magnitude < Number.infiniteMagnitude →
      (n.isNegative = true → margins.before = true) → (Value.number n).ShowsFolded margins := by
  intro verdict
  let w : Workspace Hook := engine.workspace
  have hverdict (criterion : Criterion Hook) (record : Value) :
      verdict criterion record = .ok (criterion.evaluate env record w).1.passed :=
    Engine.evaluate_criterion_passed env record criterion engine
  simp only [hverdict, Except.ok.injEq]
  refine ⟨?_, ?_, ?_, ?_, ?_, ?_, ?_⟩
  · intro part path default matchInArray record
    constructor
    · exact Criterion.asking_passed_folded env part path default matchInArray record w
    · exact Criterion.asking_keeps h env part path default matchInArray record w
  · intro v matchInArray hwhole hnil hlost
    exact Criterion.asking_loses h env v.display hwhole w hnil (margins.occurs_refl _) hlost
  · intro part matchInArray hopen
    rw [Margins.settles_iff] at hopen
    push Not at hopen
    rcases hopen with ⟨text, hoccurs, hlost⟩
    have hwhole : matchInArray = true → (Value.string (.ofList text)).array? = none := fun _ => rfl
    have hdisplay : (Value.string (.ofList text)).display.toList = text := String.toList_ofList
    refine ⟨.ofList text, Criterion.asking_loses h env part hwhole w rfl ?_ ?_⟩
    · rw [hdisplay]
      exact hoccurs
    · rw [Value.display_folded_string, String.toList_ofList]
      exact hlost
  · intro part hnone
    exact Margins.settles_of_not_mem hnone
  · exact Value.showsFolded_string margins
  · exact Value.showsFolded_boolean margins
  · intro n hfinite hsign
    exact Value.showsFolded_number hfinite hsign

theorem folding_keeps_matches_of_names :
    let env : Environment Empty := ⟨⟨nofun, nofun, nofun, nofun⟩, ⟨0, 0⟩, .undefined⟩
    let engine : Engine Empty := .start .default
    let verdict (criterion : Criterion Empty) (record : Value) : Except FilterError Bool :=
      (Engine.evaluate env record (.node (.criterion criterion)) engine).1.map Outcome.passed
    let naming (normalize : Bool) : Criterion Empty :=
      .asking .contains "Zoë  B" ["owner", "names"] .undefined true normalize
    let names : Value := .array [.number (.ofNat 7), .string " ZOË, Zoë  B."]
    let record : Value := .object [("owner", .object [("names", names)])]
    let whole (normalize : Bool) : Criterion Empty :=
      .asking .equals "NaN" [] .undefined true normalize
    verdict (naming true) record = .ok true ∧
      verdict (whole false) (.number .nan) = .ok true ∧
      verdict (whole true) (.number .nan) = .ok false ∧
      ∃ text : String,
        let starting (normalize : Bool) : Criterion Empty :=
          .asking .startsWith "AΣ" [] .undefined true normalize
        verdict (starting false) (.string text) = .ok true ∧
          verdict (starting true) (.string text) = .ok false := by
  intro env engine verdict naming names record whole
  let w : Workspace Empty := engine.workspace
  have hsettled : 'Σ' ∉ "Zoë  B".toList := by
    decide +kernel
  have hfinite : (Number.ofNat 7).magnitude < Number.infiniteMagnitude := by
    decide +kernel
  have hpositive : (Number.ofNat 7).isNegative = false := by
    decide +kernel
  have htested : (naming false).tested record = [.number (.ofNat 7), .string " ZOË, Zoë  B."] := by
    unfold Criterion.tested
    rw [Path.resolve_eq_resolved]
    rfl
  have hpassed : verdict (naming false) record = .ok true := by
    refine (Engine.evaluate_criterion_passed env record _ engine).trans (congrArg Except.ok ?_)
    apply (Criterion.asking_passed_iff_verbatim rfl env _ _ _ _ record w).mpr
    rw [htested]
    refine ⟨_, List.mem_cons_of_mem _ List.mem_cons_self, rfl, " ZOË, ".toList, ['.'], ?_, ?_⟩
    · exact ⟨nofun, nofun⟩
    · decide +kernel
  rcases @folding_keeps_matches _ env engine .contains _ rfl with
    ⟨hkeeps, -, -, hsettles, hstring, -, hnumber⟩
  rcases @folding_keeps_matches _ env engine .equals _ rfl with ⟨-, hloses, -⟩
  rcases @folding_keeps_matches _ env engine .startsWith _ rfl with ⟨-, -, hopen, -⟩
  have hnan : ¬ (Value.number .nan).ShowsFolded ⟨false, false⟩ := by
    rintro ⟨before, after, hfit, heq⟩
    rw [hfit.before rfl, hfit.after rfl] at heq
    exact absurd heq (by decide +kernel)
  have hsigma : ¬ Margins.Settles ⟨false, true⟩ "AΣ".toList := by
    intro hsettles
    have hform := hsettles ['A'] [] rfl [] ['a'] ⟨fun _ => rfl, nofun⟩
    exact absurd hform (by decide +kernel)
  have hwhole := hloses (.number .nan) true (fun _ => rfl) rfl hnan
  refine ⟨?_, hwhole.1, hwhole.2, hopen "AΣ" true hsigma⟩
  apply (hkeeps "Zoë  B" ["owner", "names"] .undefined true record).2
  · intro v hv _
    rw [htested] at hv
    rcases List.mem_cons.mp hv with rfl | hv
    · refine .shown (hnumber _ hfinite ?_) (hsettles _ hsettled)
      rw [hpositive]
      exact nofun
    · rw [List.mem_singleton.mp hv]
      exact .shown (hstring _) (hsettles _ hsettled)
  · exact hpassed

/-- A number keeps its sign where the part loses it, and a letter turns the sigma before it. -/
theorem folding_loses_matches :
    let env : Environment Empty := ⟨⟨nofun, nofun, nofun, nofun⟩, ⟨0, 0⟩, .undefined⟩
    let engine : Engine Empty := .start .default
    let verdict (criterion : Criterion Empty) (record : Value) : Except FilterError Bool :=
      (Engine.evaluate env record (.node (.criterion criterion)) engine).1.map Outcome.passed
    let minusFive : Value := .number (.neg (.ofNat 5))
    let equalling (normalize : Bool) : Criterion Empty :=
      .asking .equals "-5" [] .undefined true normalize
    let starting (normalize : Bool) : Criterion Empty :=
      .asking .startsWith "AΣ" [] .undefined true normalize
    (verdict (equalling false) minusFive = .ok true ∧
      verdict (equalling true) minusFive = .ok false) ∧
    verdict (starting false) (.string "AΣA") = .ok true ∧
      verdict (starting true) (.string "AΣA") = .ok false := by
  intro env engine verdict minusFive equalling starting
  let w : Workspace Empty := engine.workspace
  have hverdict {criterion : Criterion Empty} {record : Value} {passed : Bool}
      (h : (criterion.evaluate env record w).1.passed = passed) :
      verdict criterion record = .ok passed :=
    (Engine.evaluate_criterion_passed env record criterion engine).trans (congrArg Except.ok h)
  have hequals : StringOperator.equals.margins? = some ⟨false, false⟩ := rfl
  have hstarts : StringOperator.startsWith.margins? = some ⟨false, true⟩ := rfl
  constructor
  · have hdisplay : minusFive.display.toList = "-5".toList := by
      decide +kernel
    have hwhole : true = true → minusFive.array? = none := fun _ => rfl
    have hlost : ¬ Margins.Occurs ⟨false, false⟩ (foldChars "-5".toList)
        minusFive.folded.display.toList := by
      rintro ⟨before, after, hfit, heq⟩
      rw [hfit.before rfl, hfit.after rfl] at heq
      exact absurd heq (by decide +kernel)
    have hpassed := Criterion.asking_loses hequals env "-5" hwhole w rfl
      (hdisplay ▸ Margins.occurs_refl _ _) hlost
    exact ⟨hverdict hpassed.1, hverdict hpassed.2⟩
  · have hwhole : true = true → (Value.string "AΣA").array? = none := fun _ => rfl
    have hoccurs : Margins.Occurs ⟨false, true⟩ "AΣ".toList "AΣA".toList :=
      ⟨[], ['A'], ⟨fun _ => rfl, nofun⟩, rfl⟩
    have hlost : ¬ Margins.Occurs ⟨false, true⟩ (foldChars "AΣ".toList)
        (Value.string "AΣA").folded.display.toList := by
      rw [Value.display_folded_string]
      intro hkept
      exact absurd (Margins.count_lower_le (.inl rfl) hkept) (by decide +kernel)
    have hpassed := Criterion.asking_loses hstarts env "AΣ" hwhole w rfl hoccurs hlost
    exact ⟨hverdict hpassed.1, hverdict hpassed.2⟩

end RecordFilter
