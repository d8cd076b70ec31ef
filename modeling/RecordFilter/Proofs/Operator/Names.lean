import RecordFilter.Criterion.Basic
import Mathlib.Data.List.Nodup
import Mathlib.Data.List.Pairwise

/-!
# What operators are called

Every operator has a name and perhaps a second one.  No two operators of a type share
a name, so a type and a name determine an operator, if there is one.
-/

namespace RecordFilter

/-! ## Families -/

namespace Vocabulary

variable {α : Type} [Vocabulary α]

def namesOf (op : α) : List String :=
  name op :: (otherName? op).toList

theorem isNamed_iff {text : String} {op : α} :
    isNamed text op = true ↔ name op = text ∨ otherName? op = some text := by
  rw [isNamed, Bool.or_eq_true, beq_iff_eq, beq_iff_eq]

theorem mem_namesOf {text : String} {op : α} :
    text ∈ namesOf op ↔ isNamed text op = true := by
  rw [isNamed_iff, namesOf, List.mem_cons, Option.mem_toList, eq_comm]

end Vocabulary

/-- All operators of the family are listed, and no name occurs twice. -/
class LawfulVocabulary (α : Type) [Vocabulary α] : Prop where
  mem_all : ∀ op : α, op ∈ (Vocabulary.all : List α)
  nodup : ((Vocabulary.all : List α).flatMap Vocabulary.namesOf).Nodup

namespace Vocabulary

variable {α : Type} [Vocabulary α] [LawfulVocabulary α]

theorem eq_of_isNamed {text : String} {a b : α} (ha : isNamed text a = true)
    (hb : isNamed text b = true) : a = b := by
  have hnodup : ((all : List α).flatMap namesOf).Nodup := LawfulVocabulary.nodup
  have hsymm : Std.Symm (Function.onFun List.Disjoint (namesOf : α → List String)) :=
    ⟨fun _ _ h _ hb ha => h ha hb⟩
  have hapart := (List.nodup_flatMap.mp hnodup).2
  by_contra hne
  have hdisjoint := hapart.forall (LawfulVocabulary.mem_all a) (LawfulVocabulary.mem_all b) hne
  exact hdisjoint (mem_namesOf.mpr ha) (mem_namesOf.mpr hb)

theorem ofName?_eq_some_iff {text : String} {op : α} :
    ofName? text = some op ↔ name op = text ∨ otherName? op = some text := by
  rw [← isNamed_iff]
  constructor
  · intro h
    exact List.find?_some h
  · intro h
    cases hfound : (ofName? text : Option α) with
    | none => exact absurd h (List.find?_eq_none.mp hfound op (LawfulVocabulary.mem_all op))
    | some other => rw [eq_of_isNamed (List.find?_some hfound) h]

end Vocabulary

instance : LawfulVocabulary CriterionType where
  mem_all type := by cases type <;> decide
  nodup := by decide +kernel

instance : LawfulVocabulary ArrayOperator where
  mem_all op := by
    cases op with
    | size comparison => cases comparison <;> decide
    | _ => decide
  nodup := by decide +kernel

instance : LawfulVocabulary BooleanOperator where
  mem_all op := by cases op <;> decide
  nodup := by decide +kernel

instance : LawfulVocabulary DateOperator where
  mem_all op := by cases op <;> decide
  nodup := by decide +kernel

instance : LawfulVocabulary GeoOperator where
  mem_all op := by cases op <;> decide
  nodup := by decide +kernel

instance : LawfulVocabulary MapOperator where
  mem_all op := by
    cases op with
    | size comparison => cases comparison <;> decide
    | _ => decide
  nodup := by decide +kernel

instance : LawfulVocabulary NumberOperator where
  mem_all op := by
    cases op with
    | compare comparison => cases comparison <;> decide
    | _ => decide
  nodup := by decide +kernel

instance : LawfulVocabulary ObjectOperator where
  mem_all op := by cases op <;> decide
  nodup := by decide +kernel

instance : LawfulVocabulary SetOperator where
  mem_all op := by
    cases op with
    | ofArray op =>
        have hop : SetOperator.ofArray op ∈ (Vocabulary.all : List ArrayOperator).map .ofArray :=
          List.mem_map_of_mem (LawfulVocabulary.mem_all op)
        exact List.mem_append_left _ hop
    | _ => decide
  nodup := by decide +kernel

instance : LawfulVocabulary StringOperator where
  mem_all op := by cases op <;> decide
  nodup := by decide +kernel

/-! ## Operators and types -/

namespace Operator

def otherName? : Operator → Option String
  | .array op => Vocabulary.otherName? op
  | .boolean op => Vocabulary.otherName? op
  | .date op => Vocabulary.otherName? op
  | .geo op => Vocabulary.otherName? op
  | .map op => Vocabulary.otherName? op
  | .number op => Vocabulary.otherName? op
  | .object op => Vocabulary.otherName? op
  | .set op => Vocabulary.otherName? op
  | .string op => Vocabulary.otherName? op

def IsCalled (op : Operator) (text : String) : Prop :=
  op.name = text ∨ op.otherName? = some text

end Operator

/-- The operator of a type with a name is the only operator of this type that is called so. -/
theorem CriterionType.operator?_eq_some_iff {type : CriterionType} {text : String}
    {op : Operator} :
    type.operator? text = some op ↔ op.type = type ∧ op.IsCalled text := by
  cases op <;> cases type <;>
    simp [operator?, Operator.type, Operator.IsCalled, Operator.name, Operator.otherName?,
      Vocabulary.ofName?_eq_some_iff]

theorem Operator.eq_of_isCalled {a b : Operator} {text : String} (htype : a.type = b.type)
    (ha : a.IsCalled text) (hb : b.IsCalled text) : a = b := by
  have hfound := CriterionType.operator?_eq_some_iff.mpr ⟨htype, ha⟩
  rw [CriterionType.operator?_eq_some_iff.mpr ⟨rfl, hb⟩] at hfound
  exact (Option.some.inj hfound).symm

theorem Operator.type_ne_custom (op : Operator) : op.type ≠ .custom := by
  cases op <;> exact nofun

namespace Test

variable {Hook : Type} {type : CriterionType} {text : String}

theorem ofNames_eq_ok_iff {test : Test Hook} :
    ofNames type text = .ok test ↔
      ∃ op : Operator, op.type = type ∧ op.IsCalled text ∧ test = .operator op := by
  have hfound : ofNames type text = .ok test ↔
      ∃ op, type.operator? text = some op ∧ test = .operator op := by
    unfold ofNames
    split
    · simp [CriterionType.operator?]
    · split
      · next op hop => simp [hop, eq_comm]
      · next hop => simp [hop]
  simp only [hfound, CriterionType.operator?_eq_some_iff, and_assoc]

theorem ofNames_eq_error_iff {e : FilterError} :
    (ofNames type text : Except FilterError (Test Hook)) = .error e ↔
      (¬ ∃ op : Operator, op.type = type ∧ op.IsCalled text) ∧
        e = if type = .custom then .invalid .typeField .customWithoutPredicate
          else .unknownOperator type text := by
  simp only [← CriterionType.operator?_eq_some_iff]
  unfold ofNames
  split
  · simp [CriterionType.operator?, eq_comm]
  · next hcustom =>
      rw [if_neg hcustom]
      split
      · next op hop => simp [hop]
      · next hop => simp [hop, eq_comm]

end Test

end RecordFilter
