import RecordFilter.Expression.Reader
import RecordFilter.Proofs.Evaluation.Alone
import RecordFilter.Proofs.Operator.Names

/-!
# Documents of criteria

A criterion with a literal operand can be written as a document that gives its type,
operator, path, operand and default value.  Reading the document gives the criterion
back, except that an operand or a default value that is null counts as not given.

The main statement says exactly when that makes a difference to an evaluation.
-/

namespace RecordFilter

variable {Hook : Type}

/-! ## Names -/

namespace Operator

def IsNamed (op : Operator) (type operator : String) : Prop :=
  CriterionType.ofName? type = some op.type ∧ op.type.operator? operator = some op

theorem isNamed_name (op : Operator) : op.IsNamed op.type.name op.name := by
  constructor
  · exact Vocabulary.ofName?_eq_some_iff.mpr (.inl rfl)
  · exact CriterionType.operator?_eq_some_iff.mpr ⟨rfl, .inl rfl⟩

theorem ofNames_of_isNamed {op : Operator} {type operator : String}
    (h : op.IsNamed type operator) :
    Test.ofNames op.type operator = .ok (Test.operator op : Test Hook) := by
  rcases CriterionType.operator?_eq_some_iff.mp h.2 with ⟨_, hcalled⟩
  exact Test.ofNames_eq_ok_iff.mpr ⟨op, rfl, hcalled, rfl⟩

theorem typeOf_of_isNamed {op : Operator} {type operator : String}
    (h : op.IsNamed type operator) (steps : List Step) :
    Document.typeOf steps (some type) = .ok (some op.type) := by
  have htype := h.1
  unfold Document.typeOf
  simp only [htype]
  cases op <;> rfl

end Operator

/-! ## Documents of criteria -/

namespace Document

def ofLiteral (type operator : String) (path : Path) (operand default : Json) : Json :=
  .object [("defaultValue", default), ("matchValue", operand), ("operator", .string operator),
    ("type", .string type), ("valuePath", .array (path.map .string))]

/-- Whether an operand is written as a reference to a value of the record. -/
def RefersToRecord (json : Json) : Prop :=
  ∃ names, json = .object [("$path", names)] ∧ (names.string?.isSome ∨ names.strings?.isSome)

def valueOf : Json → Value
  | .null => .undefined
  | json => .ofJson json

theorem valueOf_of_ne_null {json : Json} (h : json ≠ .null) : valueOf json = .ofJson json := by
  cases json with
  | null => exact absurd rfl h
  | _ => rfl

theorem strings?_names (path : Path) : (Json.array (path.map .string)).strings? = some path := by
  show (path.map Json.string).mapM Json.string? = some path
  induction path with
  | nil => rfl
  | cons name more ih =>
      rw [List.map_cons, List.mapM_cons, ih]
      rfl

theorem operandOf_of_not_refersToRecord {json : Json} (h : ¬ RefersToRecord json) :
    operandOf json = (.literal (.ofJson json) : Operand Hook) := by
  unfold operandOf
  split
  · next text => exact absurd ⟨.string text, rfl, .inl rfl⟩ h
  · next names _ =>
      split
      · next found hfound => exact absurd ⟨names, rfl, .inr (by rw [hfound]; rfl)⟩ h
      · rfl
  · rfl

theorem operandOf_readAny {json : Json} (h : ¬ RefersToRecord json) :
    (json.readAny.map operandOf).getD (.literal .undefined) =
      (.literal (valueOf json) : Operand Hook) := by
  cases json with
  | null => rfl
  | _ => exact operandOf_of_not_refersToRecord h

theorem ofJson_readAny (json : Json) :
    (json.readAny.map Value.ofJson).getD .undefined = valueOf json := by
  cases json <;> rfl

def draftOf (type operator : String) (path : Path) (operand default : Json) : CriterionDraft :=
  { CriterionDraft.empty with
    type := some type
    operator := some operator
    operand := operand.readAny
    path := some path
    default := default.readAny }

theorem putNamed_valuePath (draft : CriterionDraft) (path : Path) :
    criterionLayout.putNamed draft ("valuePath", .array (path.map .string)) =
      .ok { draft with path := some path } := by
  have hpath : readPath (.array (path.map .string)) = .ok (some path) := by
    simp only [readPath, strings?_names]
  show (readPath (.array (path.map .string)) >>= fun found =>
    pure { draft with path := found }) = _
  rw [hpath]
  rfl

theorem read_ofLiteral (type operator : String) (path : Path) (operand default : Json) :
    criterionLayout.read .empty (ofLiteral type operator path operand default) =
      .ok (draftOf type operator path operand default) := by
  let before := { draftOf type operator path operand default with path := none }
  have hpath := putNamed_valuePath before path
  show (criterionLayout.putNamed before ("valuePath", .array (path.map .string)) >>= pure) = _
  rw [hpath]
  rfl

theorem criterionOf_draftOf (type operator : String) (op : Operator) (path : Path)
    {operand : Json} (hoperand : ¬ RefersToRecord operand) (default : Json) :
    criterionOf (draftOf type operator path operand default) (.operator op) =
      (Criterion.ofLiteral op path (valueOf operand) (valueOf default) : Criterion Hook) := by
  have hoperand' := @operandOf_readAny Hook _ hoperand
  have hdefault := ofJson_readAny default
  simp only [criterionOf, draftOf, Criterion.ofTest, hoperand', hdefault]
  rfl

theorem readNode_ofLiteral {op : Operator} {type operator : String}
    (hnamed : op.IsNamed type operator) (path : Path) {operand : Json}
    (hoperand : ¬ RefersToRecord operand) (default : Json) (steps : List Step) :
    readNode steps (ofLiteral type operator path operand default) =
      .ok (.criterion (Criterion.ofLiteral op path (valueOf operand) (valueOf default)) :
        Node Hook) := by
  have hdraft := read_ofLiteral type operator path operand default
  unfold readNode readDraft
  rw [hdraft]
  show (typeOf steps (some type)).bind _ = _
  rw [op.typeOf_of_isNamed hnamed]
  show (Test.ofNames op.type operator).bind _ = _
  rw [op.ofNames_of_isNamed hnamed]
  show Except.ok (Node.criterion _) = _
  rw [criterionOf_draftOf type operator op path hoperand default]

end Document

/-- The document of a criterion describes the expression of this criterion. -/
theorem Expression.ofJson_ofLiteral {op : Operator} {type operator : String}
    (hnamed : op.IsNamed type operator) (path : Path) {operand : Json}
    (hoperand : ¬ Document.RefersToRecord operand) (default : Json) :
    Expression.ofJson (Document.ofLiteral type operator path operand default) =
      .ok (.node (.criterion (Criterion.ofLiteral op path (Document.valueOf operand)
        (Document.valueOf default))) : Expression Hook) := by
  have hnode := @Document.readNode_ofLiteral Hook _ _ _ hnamed path _ hoperand default []
  show Expression.node <$> Document.readNode [] _ = _
  rw [hnode]
  rfl

/-! ## Evaluation of documents -/

namespace Document

def built (op : Operator) (path : Path) (operand default : Value) : Expression Hook :=
  .node (.criterion (Criterion.ofLiteral op path operand default))

theorem evaluateJson_ofLiteral {op : Operator} {type operator : String}
    (hnamed : op.IsNamed type operator) (path : Path) {operand : Json}
    (hoperand : ¬ RefersToRecord operand) (default : Json) (env : Environment Hook)
    (record : Value) (engine : Engine Hook) :
    (Engine.evaluateJson env record (ofLiteral type operator path operand default) engine).1 =
      (Engine.evaluate env record (built op path (valueOf operand) (valueOf default)) engine).1 := by
  have hread := @Expression.ofJson_ofLiteral Hook _ _ _ hnamed path _ hoperand default
  unfold Engine.evaluateJson built
  rw [hread]
  show (Engine.evaluate { env with context := .undefined } record _ engine).1 = _
  rw [Engine.evaluate_criterion, Engine.evaluate_criterion,
    Criterion.evaluate_ofLiteral_congr env record op path _ _ rfl]

theorem evaluate_built_eq_iff (op : Operator) (path : Path) (operand default : Json)
    (env : Environment Hook) (record : Value) (engine : Engine Hook) :
    (Engine.evaluate env record (built op path (valueOf operand) (valueOf default)) engine).1 =
        (Engine.evaluate env record (built op path (.ofJson operand) (.ofJson default)) engine).1 ↔
      operand ≠ .null ∧ (default = .null → Path.trail record path ≠ .missing) := by
  unfold built
  rw [Engine.evaluate_criterion, Engine.evaluate_criterion]
  constructor
  · intro heq
    have hresult := Outcome.criterion.inj (Except.ok.inj heq)
    constructor
    · rintro rfl
      have htext := congrArg CriterionResult.operand hresult
      rw [Criterion.evaluate_ofLiteral_operand, Criterion.evaluate_ofLiteral_operand, valueOf,
        Value.ofJson, Criterion.form_undefined, Criterion.form_null] at htext
      exact absurd htext (by decide)
    · rintro rfl hmissing
      have hvalue := congrArg CriterionResult.value hresult
      rw [Criterion.evaluate_ofLiteral_value, Criterion.evaluate_ofLiteral_value,
        Path.resolve_of_missing hmissing, Path.resolve_of_missing hmissing, valueOf,
        Value.ofJson, Criterion.form_undefined, Criterion.form_null] at hvalue
      cases hvalue
  · rintro ⟨hoperand, hdefault⟩
    have hresolve : Path.resolve record path (valueOf default) =
        Path.resolve record path (.ofJson default) := by
      by_cases hnull : default = .null
      · exact Path.resolve_congr (hdefault hnull) _ _
      · rw [valueOf_of_ne_null hnull]
    rw [valueOf_of_ne_null hoperand]
    exact congrArg (Except.ok ∘ Outcome.criterion)
      (Criterion.evaluate_ofLiteral_congr env record op path _ _ hresolve env.context)

/--
The document of a criterion is evaluated like the criterion built from its values, but
for the operand and the default value that are null: these count as not given.  This
shows unless the operand is something else and the default value is not used.
-/
theorem evaluateJson_eq_evaluate_iff {op : Operator} {type operator : String}
    (hnamed : op.IsNamed type operator) (path : Path) {operand : Json}
    (hoperand : ¬ RefersToRecord operand) (default : Json) (env : Environment Hook)
    (record : Value) (engine : Engine Hook) :
    let answer :=
      (Engine.evaluateJson env record (ofLiteral type operator path operand default) engine).1
    answer =
        (Engine.evaluate env record (built op path (valueOf operand) (valueOf default)) engine).1 ∧
      (answer =
          (Engine.evaluate env record (built op path (.ofJson operand) (.ofJson default)) engine).1 ↔
        operand ≠ .null ∧ (default = .null → Path.trail record path ≠ .missing)) := by
  intro answer
  have hanswer : answer =
      (Engine.evaluate env record (built op path (valueOf operand) (valueOf default)) engine).1 :=
    evaluateJson_ofLiteral hnamed path hoperand default env record engine
  constructor
  · exact hanswer
  · rw [hanswer]
    exact evaluate_built_eq_iff op path operand default env record engine

theorem evaluateJson_eq_evaluate_text :
    let operand : Json := .object [("$path", .integer 5)]
    let env : Environment Empty := ⟨⟨nofun, nofun, nofun, nofun⟩, ⟨0, 0⟩, .undefined⟩
    let record : Value := .object [("a", .object [("b", .string "five")])]
    let engine : Engine Empty := .start .default
    Operator.IsNamed (.string .equals) "TEXT" "EQUALS" ∧ ¬ RefersToRecord operand ∧
      (Engine.evaluateJson env record (ofLiteral "TEXT" "EQUALS" ["a", "b"] operand .null)
          engine).1 =
        (Engine.evaluate env record
          (built (.string .equals) ["a", "b"] (.ofJson operand) (.ofJson .null)) engine).1 := by
  intro operand env record engine
  have hoperand : ¬ RefersToRecord (.object [("$path", .integer 5)]) := by
    rintro ⟨names, hnames, hread⟩
    cases hnames
    rcases hread with h | h <;> cases h
  refine ⟨⟨rfl, rfl⟩, hoperand, ?_⟩
  refine (evaluateJson_eq_evaluate_iff ⟨rfl, rfl⟩ ["a", "b"] hoperand .null env record
    engine).2.mpr ⟨nofun, ?_⟩
  intro _ hmissing
  cases hmissing

/-- A null that is sought and found does not pass in a document. -/
theorem evaluateJson_null_ne_evaluate :
    let env : Environment Empty := ⟨⟨nofun, nofun, nofun, nofun⟩, ⟨0, 0⟩, .undefined⟩
    let record : Value := .object [("a", .null)]
    let engine : Engine Empty := .start .default
    let read := (Engine.evaluateJson env record
      (ofLiteral "BOOLEAN" "EQUALS" ["a"] .null .null) engine).1
    let made := (Engine.evaluate env record
      (built (.boolean .equals) ["a"] (.ofJson .null) (.ofJson .null)) engine).1
    read.map Outcome.passed = .ok false ∧ made.map Outcome.passed = .ok true := by
  intro env record engine read made
  have hnull : ¬ RefersToRecord .null := by
    rintro ⟨names, hnames, _⟩
    cases hnames
  have hnamed : Operator.IsNamed (.boolean .equals) "BOOLEAN" "EQUALS" :=
    Operator.isNamed_name (.boolean .equals)
  have hread : read = _ := evaluateJson_ofLiteral hnamed ["a"] hnull .null env record engine
  have hmade : made = _ := Engine.evaluate_criterion env record _ engine
  rw [hread, built, Engine.evaluate_criterion, hmade, Criterion.evaluate_ofLiteral,
    Criterion.evaluate_ofLiteral, Path.resolve_eq_resolved, Path.resolve_eq_resolved]
  exact ⟨rfl, rfl⟩

end Document

end RecordFilter
