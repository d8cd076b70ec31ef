import RecordFilter.Proofs.Operator.Shape
import RecordFilter.Proofs.Value.Order

/-!
# Operators and their denials

Many operators have a counterpart that denies them.  It is not their negation: where value
and operand do not have the shapes that an operator asks for it fails, and so does its
denial.

The main statement says that of an operator and its denial exactly one holds where the
shapes are right, and none elsewhere.  Only a NaN can keep both from holding.
-/

namespace RecordFilter

/-! ## Denials -/

def ArrayOperator.denial? : ArrayOperator → Option ArrayOperator
  | .includesAll => some .notIncludesAll
  | .includesAny => some .notIncludesAny
  | .isEmpty => some .isNotEmpty
  | _ => none

def SetOperator.denial? : SetOperator → Option SetOperator
  | .ofArray op => op.denial?.map .ofArray
  | .has => some .notHas
  | .notHas => none

def BooleanOperator.denial? : BooleanOperator → Option BooleanOperator
  | .equals => some .notEquals
  | .strictEqual => some .strictNotEqual
  | .is => some .isNot
  | .isTruthy => some .isFalsy
  | .isNil => some .isNotNil
  | .isNull => some .isNotNull
  | .isUndefined => some .isDefined
  | _ => none

def DateOperator.denial? : DateOperator → Option DateOperator
  | .equals => some .notEquals
  | .between => some .notBetween
  | .isWeekday => some .isWeekend
  | _ => none

def GeoOperator.denial? : GeoOperator → Option GeoOperator
  | .inRadius => some .notInRadius
  | .notInRadius => none

def MapOperator.denial? : MapOperator → Option MapOperator
  | .isEmpty => some .isNotEmpty
  | _ => none

def NumberOperator.denial? : NumberOperator → Option NumberOperator
  | .compare .equals => some .notEquals
  | .between => some .notBetween
  | .among => some .notAmong
  | _ => none

def ObjectOperator.denial? : ObjectOperator → Option ObjectOperator
  | .contains => some .notContains
  | .equals => some .notEquals
  | .hasKey => some .notHasKey
  | .hasValue => some .notHasValue
  | .isEmpty => some .isNotEmpty
  | _ => none

def StringOperator.denial? : StringOperator → Option StringOperator
  | .equals => some .notEquals
  | .contains => some .notContains
  | .matchesRegex => some .notMatchesRegex
  | .among => some .notAmong
  | .isEmpty => some .isNotEmpty
  | _ => none

/-- The operator that denies another one of its type. -/
def Operator.denial? : Operator → Option Operator
  | .array op => op.denial?.map .array
  | .boolean op => op.denial?.map .boolean
  | .date op => op.denial?.map .date
  | .geo op => op.denial?.map .geo
  | .map op => op.denial?.map .map
  | .number op => op.denial?.map .number
  | .object op => op.denial?.map .object
  | .set op => op.denial?.map .set
  | .string op => op.denial?.map .string

example : ∀ type ∈ (Vocabulary.all : List CriterionType), ∀ op ∈ type.operators,
    "NOT-".toList.isPrefixOf op.name.toList →
      ∃ other ∈ type.operators, other.denial? = some op := by
  decide +kernel

/-- Whether a NaN is among what is compared with bounds. -/
def Operator.MeetsNaN (v operand : Value) : Operator → Prop
  | .number .between => ∃ n low high, v = .number n ∧
      operand = .array [.number low, .number high] ∧
        (n.isNaN = true ∨ low.isNaN = true ∨ high.isNaN = true)
  | .geo .inRadius => ∃ place area, GeoPoint.ofValue? v = some place ∧
      GeoArea.ofValue? operand = some area ∧ (area.distanceTo place).isNaN = true
  | _ => False

/-! ## Denying where the shapes are right -/

theorem Operator.fits_denial {op denial : Operator} (h : op.denial? = some denial)
    (v operand : Value) :
    denial.Fits v operand ↔ op.Fits v operand := by
  cases op with
  | array op => cases op <;> cases h <;> rfl
  | boolean op => cases op <;> cases h <;> rfl
  | date op => cases op <;> cases h <;> rfl
  | geo op => cases op <;> cases h; rfl
  | map op => cases op <;> cases h; rfl
  | number op =>
      cases op with
      | compare comparison => cases comparison <;> cases h; rfl
      | between | among => cases h; rfl
      | _ => cases h
  | object op => cases op <;> cases h <;> rfl
  | set op =>
      cases op with
      | ofArray op => cases op <;> cases h <;> rfl
      | has => cases h; rfl
      | notHas => cases h
  | string op => cases op <;> cases h <;> rfl

theorem Number.less_eq_not_atMost {a b : Number} (ha : a.isNaN = false) (hb : b.isNaN = false) :
    a.less b = !b.atMost a := by
  have horder : decide (a.position < b.position) = !decide (b.position ≤ a.position) := by
    rw [Bool.eq_iff_iff]
    simp
  simp [less, atMost, ha, hb, horder]

theorem Number.isNaN_of_atMost {a b : Number} (h : a.atMost b = true) :
    a.isNaN = false ∧ b.isNaN = false := by
  simp only [atMost, Bool.and_eq_true, Bool.not_eq_true'] at h
  exact h.1

theorem Instant.before_eq_not_notAfter (a b : Instant) : a.before b = !b.notAfter a := by
  unfold before notAfter
  have hswap : b.compare a = (a.compare b).swap := Std.OrientedCmp.eq_swap
  rw [hswap]
  cases a.compare b <;> rfl

theorem ArrayOperator.denial_holdsOfItems {op denial : ArrayOperator}
    (h : op.denial? = some denial) {operand : Value} (htakes : op.Takes operand)
    (items : List Value) :
    denial.holdsOfItems items operand = !op.holdsOfItems items operand := by
  cases op with
  | includesAll | includesAny =>
      cases h
      rcases htakes with ⟨wanted, hwanted⟩
      simp [holdsOfItems, Value.items?_eq_some_iff.mpr hwanted]
  | isEmpty =>
      cases h
      rfl
  | _ => cases h

theorem BooleanOperator.denial_holds {op denial : BooleanOperator}
    (h : op.denial? = some denial) {v operand : Value}
    (hfits : (Operator.boolean op).Fits v operand) :
    denial.holds v operand = !op.holds v operand := by
  cases op with
  | is =>
      cases h
      rcases hfits with ⟨⟨a, ha⟩, ⟨b, hb⟩⟩
      rw [ha, hb]
      rfl
  | _ =>
      cases h <;> rfl

theorem DateOperator.denial_holdsOfInstant {op denial : DateOperator}
    (h : op.denial? = some denial) {operand : Value} (htakes : op.Takes operand)
    (now t : Instant) :
    denial.holdsOfInstant now t operand = !op.holdsOfInstant now t operand := by
  cases op with
  | equals =>
      cases h
      rcases Value.isDate_iff.mp htakes with ⟨target, htarget⟩
      simp [holdsOfInstant, htarget, bne]
  | between =>
      cases h
      rcases (Value.isWindow_iff now).mp htakes with ⟨⟨first, last⟩, hwindow⟩
      simp [holdsOfInstant, hwindow, Instant.before_eq_not_notAfter]
  | isWeekday =>
      cases h
      exact (Bool.not_not _).symm
  | _ => cases h

theorem MapOperator.denial_holdsOfEntries {op denial : MapOperator}
    (h : op.denial? = some denial) (entries : List (Value × Value)) (operand : Value) :
    denial.holdsOfEntries entries operand = !op.holdsOfEntries entries operand := by
  cases op with
  | isEmpty =>
      cases h
      rfl
  | _ => cases h

theorem NumberOperator.denial_holdsOfNumber {op denial : NumberOperator}
    (h : op.denial? = some denial) {n : Number} {operand : Value} (htakes : op.Takes operand)
    (hnan : ¬ (Operator.number op).MeetsNaN (.number n) operand) :
    denial.holdsOfNumber n operand = !op.holdsOfNumber n operand := by
  cases op with
  | compare comparison =>
      cases comparison with
      | equals =>
          cases h
          rcases htakes with ⟨target, htarget⟩
          simp [holdsOfNumber, htarget, Value.number?, Comparison.holds]
      | _ => cases h
  | between =>
      cases h
      rcases htakes with ⟨low, high, hbounds⟩
      have hordered : n.isNaN = false ∧ low.isNaN = false ∧ high.isNaN = false := by
        simpa [Operator.MeetsNaN, hbounds] using hnan
      simp [holdsOfNumber, Value.bounds?_eq_some_iff.mpr hbounds, Number.less_eq_not_atMost,
        hordered]
  | among =>
      cases h
      rcases htakes with ⟨ns, hnumbers⟩
      simp [holdsOfNumber, Value.numbers?_eq_some_iff.mpr hnumbers]
  | _ => cases h

theorem ObjectOperator.denial_holdsOfFields {op denial : ObjectOperator}
    (h : op.denial? = some denial) {operand : Value} (htakes : op.Takes operand)
    (fields : List (String × Value)) :
    denial.holdsOfFields fields operand = !op.holdsOfFields fields operand := by
  cases op with
  | contains | equals =>
      cases h
      rcases htakes with ⟨wanted, hwanted⟩
      simp [holdsOfFields, Value.object?_eq_some_iff.mpr hwanted, bne]
  | hasKey =>
      cases h
      rcases htakes with ⟨key, hkey⟩
      simp [holdsOfFields, hkey, Value.string?]
  | hasValue | isEmpty =>
      cases h
      rfl
  | _ => cases h

theorem StringOperator.denial_holdsOfText {op denial : StringOperator}
    (h : op.denial? = some denial) {operand : Value} (htakes : op.Takes operand)
    (text : String) :
    denial.holdsOfText text operand = !op.holdsOfText text operand := by
  cases op with
  | equals | contains =>
      cases h
      rcases htakes with ⟨part, hpart⟩
      simp [holdsOfText, hpart, Value.string?, bne]
  | matchesRegex =>
      cases h
      rcases Value.isPattern_iff.mp htakes with ⟨p, hpattern⟩
      simp [holdsOfText, hpattern]
  | among =>
      cases h
      rcases htakes with ⟨texts, htexts⟩
      simp [holdsOfText, Value.strings?_eq_some_iff.mpr htexts]
  | isEmpty =>
      cases h
      rfl
  | _ => cases h

theorem GeoArea.isNaN_of_radius? {v : Value} {r : Number} (h : radius? v = some r) :
    r.isNaN = false := by
  unfold radius? at h
  split at h
  · cases h
    rfl
  · cases h
    rfl
  · split at h
    · next hsign =>
        cases h
        exact (Number.isNaN_of_atMost hsign).2
    · cases h
  · cases h

theorem GeoArea.isNaN_radius {v : Value} {area : GeoArea} (h : ofValue? v = some area) :
    area.radius.isNaN = false := by
  have hradius : radius? v = some area.radius := by
    cases v with
    | map entries =>
        simp [ofValue?, Option.bind_eq_some_iff] at h
        rcases h with ⟨_, _, r, hr, _, _, rfl⟩
        exact hr
    | object fields =>
        simp [ofValue?, Option.bind_eq_some_iff] at h
        rcases h with ⟨_, _, r, hr, _, _, rfl⟩
        exact hr
    | _ => cases h
  exact isNaN_of_radius? hradius

theorem GeoOperator.denial_holds {op denial : GeoOperator} (h : op.denial? = some denial)
    {v operand : Value} (hfits : (Operator.geo op).Fits v operand)
    (hnan : ¬ (Operator.geo op).MeetsNaN v operand) :
    denial.holds v operand = !op.holds v operand := by
  cases op with
  | inRadius =>
      cases h
      rcases Value.isPlace_iff.mp hfits.1 with ⟨place, hplace⟩
      rcases Value.isArea_iff.mp hfits.2 with ⟨area, harea⟩
      have hdistance : (area.distanceTo place).isNaN = false := by
        simpa [Operator.MeetsNaN, hplace, harea] using hnan
      have hradius := GeoArea.isNaN_radius harea
      simp [holds, hplace, harea, Number.less_eq_not_atMost, hdistance, hradius]
  | notInRadius => cases h

namespace Operator

variable {op denial : Operator} {now : Instant} {v operand : Value}

theorem denial_holds (h : op.denial? = some denial) (hfits : op.Fits v operand)
    (hnan : ¬ op.MeetsNaN v operand) : denial.holds now v operand = !op.holds now v operand := by
  cases op with
  | array op =>
      rcases Option.map_eq_some_iff.mp h with ⟨other, hother, rfl⟩
      rcases hfits with ⟨⟨items, rfl⟩, htakes⟩
      exact ArrayOperator.denial_holdsOfItems hother htakes items
  | boolean op =>
      rcases Option.map_eq_some_iff.mp h with ⟨other, hother, rfl⟩
      exact BooleanOperator.denial_holds hother hfits
  | date op =>
      rcases Option.map_eq_some_iff.mp h with ⟨other, hother, rfl⟩
      rcases Value.isDate_iff.mp hfits.1 with ⟨t, ht⟩
      simp only [holds, DateOperator.holds, ht, Option.any_some]
      exact DateOperator.denial_holdsOfInstant hother hfits.2 now t
  | geo op =>
      rcases Option.map_eq_some_iff.mp h with ⟨other, hother, rfl⟩
      exact GeoOperator.denial_holds hother hfits hnan
  | map op =>
      rcases Option.map_eq_some_iff.mp h with ⟨other, hother, rfl⟩
      rcases Value.isMap_or_isObject_iff.mp hfits.1 with ⟨entries, hentries⟩
      simp only [holds, MapOperator.holds, hentries, Option.any_some]
      exact MapOperator.denial_holdsOfEntries hother entries operand
  | number op =>
      rcases Option.map_eq_some_iff.mp h with ⟨other, hother, rfl⟩
      rcases hfits with ⟨⟨n, rfl⟩, htakes⟩
      exact NumberOperator.denial_holdsOfNumber hother htakes hnan
  | object op =>
      rcases Option.map_eq_some_iff.mp h with ⟨other, hother, rfl⟩
      rcases hfits with ⟨⟨fields, rfl⟩, htakes⟩
      exact ObjectOperator.denial_holdsOfFields hother htakes fields
  | set op =>
      rcases Option.map_eq_some_iff.mp h with ⟨other, hother, rfl⟩
      rcases hfits with ⟨⟨items, hitems⟩, htakes⟩
      have hread := Value.items?_eq_some_iff.mpr hitems
      cases op with
      | ofArray op =>
          rcases Option.map_eq_some_iff.mp hother with ⟨member, hmember, rfl⟩
          simp only [holds, SetOperator.holds, hread]
          exact ArrayOperator.denial_holdsOfItems hmember htakes items
      | has =>
          cases hother
          simp only [holds, SetOperator.holds, hread]
      | notHas => cases hother
  | string op =>
      rcases Option.map_eq_some_iff.mp h with ⟨other, hother, rfl⟩
      rcases hfits with ⟨hundefined, hnull, htakes⟩
      have hpresent := Value.isNil_eq_false_iff.mpr ⟨hundefined, hnull⟩
      simp only [holds, StringOperator.holds, hpresent, Bool.not_false, Bool.true_and]
      exact StringOperator.denial_holdsOfText hother htakes v.display

theorem not_meetsNaN_of_holds (h : op.holds now v operand = true) :
    ¬ op.MeetsNaN v operand := by
  intro hnan
  cases op with
  | number op =>
      cases op with
      | between =>
          rcases hnan with ⟨n, low, high, rfl, hbounds, hnan⟩
          rcases (Option.any_eq_true _ _).mp h with ⟨⟨first, last⟩, hread, hbetween⟩
          rw [Value.bounds?_eq_some_iff.mpr hbounds] at hread
          cases hread
          rcases Bool.and_eq_true_iff.mp hbetween with ⟨hlow, hhigh⟩
          simp [Number.isNaN_of_atMost hlow, Number.isNaN_of_atMost hhigh] at hnan
      | _ => exact hnan
  | geo op =>
      cases op with
      | inRadius =>
          rcases hnan with ⟨place, area, hplace, harea, hnan⟩
          simp only [holds, GeoOperator.holds, hplace, harea] at h
          simp [Number.isNaN_of_atMost h] at hnan
      | notInRadius => exact hnan
  | _ => exact hnan

end Operator

/--
Of an operator and its denial at most one holds, and none on operands of other shapes than they
ask for.  Where the shapes are right exactly one of them holds, unless a NaN is to be compared
with the bounds of a range or with a radius.
-/
theorem denial_complements {op denial : Operator} (h : op.denial? = some denial) (now : Instant)
    (v operand : Value) :
    ¬ (op.holds now v operand = true ∧ denial.holds now v operand = true) ∧
      (¬ op.Fits v operand →
        op.holds now v operand = false ∧ denial.holds now v operand = false) ∧
      (op.Fits v operand → ¬ op.MeetsNaN v operand →
        op.holds now v operand = !denial.holds now v operand) := by
  refine ⟨?_, ?_, ?_⟩
  · rintro ⟨hop, hdenial⟩
    have hfits := Operator.fits_of_holds hop
    rw [Operator.denial_holds h hfits (Operator.not_meetsNaN_of_holds hop), hop] at hdenial
    cases hdenial
  · intro hmisfit
    constructor
    · apply Bool.eq_false_iff.mpr
      intro hop
      exact hmisfit (Operator.fits_of_holds hop)
    · apply Bool.eq_false_iff.mpr
      intro hdenial
      exact hmisfit ((Operator.fits_denial h v operand).mp (Operator.fits_of_holds hdenial))
  · intro hfits hnan
    rw [Operator.denial_holds h hfits hnan, Bool.not_not]

theorem denial_complements_of_ranges :
    let now : Instant := ⟨0, 0⟩
    let between := Operator.number .between
    let notBetween := Operator.number .notBetween
    let two : Value := .number (.ofNat 2)
    let range : Value := .array [.number (.ofNat 1), .number (.ofNat 3)]
    let halfRange : Value := .array [.number (.ofNat 1)]
    let openRange : Value := .array [.number (.ofNat 1), .number .nan]
    between.denial? = some notBetween ∧
      (between.Fits two range ∧ ¬ between.MeetsNaN two range ∧
        between.holds now two range = !notBetween.holds now two range) ∧
      (¬ between.Fits two halfRange ∧ between.holds now two halfRange = false ∧
        notBetween.holds now two halfRange = false) ∧
      (between.Fits two openRange ∧ between.MeetsNaN two openRange ∧
        between.holds now two openRange = false ∧ notBetween.holds now two openRange = false) := by
  intro now between notBetween two range halfRange openRange
  have hdenial : between.denial? = some notBetween := rfl
  have hfits : between.Fits two range := ⟨⟨_, rfl⟩, _, _, rfl⟩
  have hordered : ¬ between.MeetsNaN two range := by
    rintro ⟨n, low, high, hn, hbounds, hnan⟩
    injection hn with hn
    injection hbounds with hbounds
    simp only [List.cons.injEq, Value.number.injEq] at hbounds
    rw [← hn, ← hbounds.1, ← hbounds.2.1] at hnan
    revert hnan
    decide
  have hmisfit : ¬ between.Fits two halfRange := by
    rintro ⟨_, low, high, hbounds⟩
    injection hbounds with hbounds
    cases hbounds
  have hopen : between.MeetsNaN two openRange := ⟨_, _, _, rfl, rfl, by decide⟩
  refine ⟨hdenial, ⟨hfits, hordered, ?_⟩, ⟨hmisfit, ?_⟩, ⟨⟨⟨_, rfl⟩, _, _, rfl⟩, hopen, ?_⟩⟩
  · exact (denial_complements hdenial now two range).2.2 hfits hordered
  · exact (denial_complements hdenial now two halfRange).2.1 hmisfit
  · constructor
    · rfl
    · rfl

end RecordFilter
