import RecordFilter.Operator.Basic
import RecordFilter.Proofs.Traversal

/-!
# Shapes of values and operands

Every operator asks for a value of a certain shape, and most of them ask for an operand of
a certain shape as well.  What an operator cannot work with is no error: the operator fails.

The main statement is that an operator which holds got the shapes that it asks for, negated
operators included.
-/

namespace RecordFilter

/-! ## Shapes of values -/

namespace Value

def IsBoolean (v : Value) : Prop :=
  ∃ b, v = .boolean b

def IsNumber (v : Value) : Prop :=
  ∃ n, v = .number n

def IsText (v : Value) : Prop :=
  ∃ s, v = .string s

def IsObject (v : Value) : Prop :=
  ∃ fields, v = .object fields

def IsMap (v : Value) : Prop :=
  ∃ entries, v = .map entries

def IsArray (v : Value) : Prop :=
  ∃ items, v = .array items

def IsSequence (v : Value) : Prop :=
  ∃ items, v = .array items ∨ v = .set items

def IsDate (v : Value) : Prop :=
  ∃ t, v = .date t ∨ ∃ s, v = .string s ∧ Instant.ofText? s = some t

def IsPattern (v : Value) : Prop :=
  ∃ p, v = .regex p ∨ ∃ s, v = .string s ∧ Pattern.ofText? s = some p

def IsWindow (v : Value) : Prop :=
  v.IsDate ∨ (∃ first, v = .array [first] ∧ first.IsDate) ∨
    ∃ first last, v = .array [first, last] ∧ first.IsDate ∧ last.IsDate

def HasPlace (v : Value) : Prop :=
  (v.IsObject ∨ v.IsMap) ∧
    ∃ lat lng, v.get? "lat" = some (.number lat) ∧ v.get? "lng" = some (.number lng)

def IsPlace (v : Value) : Prop :=
  v.HasPlace ∨ ∃ lat lng, v = .array [.number lat, .number lng]

/-- What is found under a name, if it is found and is something, has a shape. -/
def MayHave (name : String) (shape : Value → Prop) (v : Value) : Prop :=
  ∀ found, v.get? name = some found → found ≠ .undefined → shape found

def IsArea (v : Value) : Prop :=
  v.HasPlace ∧
    v.MayHave "radius" (fun found => ∃ r, found = .number r ∧ Number.zero.atMost r = true) ∧
    v.MayHave "unit" (fun found => ∃ name, found = .string name ∧
      name ∈ ["km", "kilometers", "KM", "mi", "miles", "MI"])

end Value

/-! ## Shapes that operators ask for -/

def ArrayOperator.Takes (operand : Value) : ArrayOperator → Prop
  | .isEmpty | .isNotEmpty => True
  | .size _ => operand.IsNumber
  | _ => operand.IsSequence

def SetOperator.Takes (operand : Value) : SetOperator → Prop
  | .ofArray op => op.Takes operand
  | .has | .notHas => True

def DateOperator.Takes (operand : Value) : DateOperator → Prop
  | .isWeekday | .isWeekend => True
  | .between | .notBetween => operand.IsWindow
  | _ => operand.IsDate

def MapOperator.Takes (operand : Value) : MapOperator → Prop
  | .contains => operand.IsMap ∨ operand.IsObject
  | .size _ => operand.IsNumber
  | _ => True

def NumberOperator.Takes (operand : Value) : NumberOperator → Prop
  | .between | .notBetween => ∃ low high, operand = .array [.number low, .number high]
  | .among | .notAmong => ∃ ns : List Number, operand = .array (ns.map .number)
  | _ => operand.IsNumber

def ObjectOperator.Takes (operand : Value) : ObjectOperator → Prop
  | .contains | .notContains | .equals | .notEquals => operand.IsObject
  | .hasKey | .notHasKey => operand.IsText
  | _ => True

def StringOperator.Takes (operand : Value) : StringOperator → Prop
  | .matchesRegex | .notMatchesRegex => operand.IsPattern
  | .among | .notAmong => ∃ texts : List String, operand = .array (texts.map .string)
  | .isEmpty | .isNotEmpty => True
  | _ => operand.IsText

/-- Whether value and operand have the shapes that the operator asks for. -/
def Operator.Fits (v operand : Value) : Operator → Prop
  | .array op => v.IsArray ∧ op.Takes operand
  | .boolean .is | .boolean .isNot => v.IsBoolean ∧ operand.IsBoolean
  | .boolean _ => True
  | .date op => v.IsDate ∧ op.Takes operand
  | .geo _ => v.IsPlace ∧ operand.IsArea
  | .map op => (v.IsMap ∨ v.IsObject) ∧ op.Takes operand
  | .number op => v.IsNumber ∧ op.Takes operand
  | .object op => v.IsObject ∧ op.Takes operand
  | .set op => v.IsSequence ∧ op.Takes operand
  | .string op => v ≠ .undefined ∧ v ≠ .null ∧ op.Takes operand

/-! ## Readers of shapes -/

namespace Value

variable {v : Value}

theorem number?_eq_some_iff (v : Value) (n : Number) : v.number? = some n ↔ v = .number n := by
  cases v <;> simp [number?]

theorem string?_eq_some_iff (v : Value) (s : String) : v.string? = some s ↔ v = .string s := by
  cases v <;> simp [string?]

theorem object?_eq_some_iff {fields : List (String × Value)} :
    v.object? = some fields ↔ v = .object fields := by
  cases v <;> simp [object?]

theorem items?_eq_some_iff {items : List Value} :
    v.items? = some items ↔ v = .array items ∨ v = .set items := by
  cases v <;> simp [items?]

theorem numbers?_eq_some_iff {ns : List Number} :
    numbers? v = some ns ↔ v = .array (ns.map .number) := by
  cases v with
  | array items => simp [numbers?, array?, mapM_eq_some_iff number?_eq_some_iff]
  | _ => simp [numbers?, array?]

theorem strings?_eq_some_iff {texts : List String} :
    strings? v = some texts ↔ v = .array (texts.map .string) := by
  cases v with
  | array items => simp [strings?, array?, mapM_eq_some_iff string?_eq_some_iff]
  | _ => simp [strings?, array?]

theorem bounds?_eq_some_iff {low high : Number} :
    bounds? v = some (low, high) ↔ v = .array [.number low, .number high] := by
  have hnumbers : bounds? v = some (low, high) ↔ numbers? v = some [low, high] := by
    unfold bounds?
    split
    · next hread => simp [hread]
    · next hread =>
        constructor
        · intro h
          cases h
        · intro h
          exact absurd h (hread low high)
  rw [hnumbers, numbers?_eq_some_iff]
  rfl

theorem isDate_iff : v.IsDate ↔ ∃ t, v.instant? = some t := by
  cases v <;> simp [IsDate, instant?]

theorem isPattern_iff : v.IsPattern ↔ ∃ p, pattern? v = some p := by
  cases v <;> simp [IsPattern, pattern?]

theorem isMap_or_isObject_iff : v.IsMap ∨ v.IsObject ↔ ∃ entries, entries? v = some entries := by
  cases v <;> simp [IsMap, IsObject, entries?]

theorem instant?_array (items : List Value) : (array items).instant? = none :=
  rfl

theorem isWindow_iff (now : Instant) :
    v.IsWindow ↔ ∃ window, window? now v = some window := by
  cases v with
  | array items =>
      match items with
      | [] => simp [IsWindow, isDate_iff, instant?_array, window?]
      | [first] =>
          simp [IsWindow, isDate_iff, instant?_array, window?, Option.bind_eq_some_iff]
      | [first, last] =>
          simp [IsWindow, isDate_iff, instant?_array, window?, Option.bind_eq_some_iff]
      | _ :: _ :: _ :: _ => simp [IsWindow, isDate_iff, instant?_array, window?]
  | _ => simp [IsWindow, isDate_iff, window?, Option.bind_eq_some_iff]

theorem isPlace_iff : v.IsPlace ↔ ∃ place, GeoPoint.ofValue? v = some place := by
  cases v with
  | array items =>
      match items with
      | [] => simp [IsPlace, HasPlace, IsObject, IsMap, GeoPoint.ofValue?]
      | [_] => simp [IsPlace, HasPlace, IsObject, IsMap, GeoPoint.ofValue?]
      | [lat, lng] =>
          simp [IsPlace, HasPlace, IsObject, IsMap, GeoPoint.ofValue?, Option.bind_eq_some_iff,
            number?_eq_some_iff]
      | _ :: _ :: _ :: _ => simp [IsPlace, HasPlace, IsObject, IsMap, GeoPoint.ofValue?]
  | map entries =>
      simp [IsPlace, HasPlace, IsObject, IsMap, GeoPoint.ofValue?, Option.bind_eq_some_iff,
        number?_eq_some_iff]
  | object fields =>
      simp [IsPlace, HasPlace, IsObject, IsMap, GeoPoint.ofValue?, Option.bind_eq_some_iff,
        number?_eq_some_iff]
  | _ => simp [IsPlace, HasPlace, IsObject, IsMap, GeoPoint.ofValue?, get?]

theorem mayHave_radius_iff :
    v.MayHave "radius" (fun found => ∃ r, found = .number r ∧ Number.zero.atMost r = true) ↔
      ∃ r, GeoArea.radius? v = some r := by
  unfold MayHave GeoArea.radius?
  cases v.get? "radius" with
  | none => simp
  | some found =>
      cases found with
      | number r => simp
      | _ => simp

theorem exists_ofName?_iff (name : String) : (∃ unit, DistanceUnit.ofName? name = some unit) ↔
    name ∈ ["km", "kilometers", "KM", "mi", "miles", "MI"] := by
  unfold DistanceUnit.ofName?
  by_cases hkilometers : name = "km" ∨ name = "kilometers" ∨ name = "KM"
  · rcases hkilometers with rfl | rfl | rfl <;> simp
  · by_cases hmiles : name = "mi" ∨ name = "miles" ∨ name = "MI"
    · rcases hmiles with rfl | rfl | rfl <;> simp
    · simp_all

theorem mayHave_unit_iff :
    v.MayHave "unit" (fun found => ∃ name, found = .string name ∧
      name ∈ ["km", "kilometers", "KM", "mi", "miles", "MI"]) ↔
      ∃ unit, GeoArea.unit? v = some unit := by
  unfold MayHave GeoArea.unit?
  cases v.get? "unit" with
  | none => simp
  | some found =>
      cases found with
      | string name => simp [exists_ofName?_iff]
      | _ => simp

theorem hasPlace_iff (h : v.IsObject ∨ v.IsMap) :
    v.HasPlace ↔ ∃ place, GeoPoint.ofValue? v = some place := by
  rw [← isPlace_iff, IsPlace]
  constructor
  · exact Or.inl
  · intro hplace
    rcases hplace with hplace | ⟨lat, lng, hpair⟩
    · exact hplace
    · rw [hpair] at h
      simp [IsObject, IsMap] at h

theorem isArea_iff : v.IsArea ↔ ∃ area, GeoArea.ofValue? v = some area := by
  unfold IsArea
  rw [mayHave_radius_iff, mayHave_unit_iff]
  cases v with
  | map entries =>
      rw [hasPlace_iff (.inr ⟨entries, rfl⟩)]
      simp [GeoArea.ofValue?, Option.bind_eq_some_iff]
  | object fields =>
      rw [hasPlace_iff (.inl ⟨fields, rfl⟩)]
      simp [GeoArea.ofValue?, Option.bind_eq_some_iff]
  | _ => simp [HasPlace, IsObject, IsMap, GeoArea.ofValue?]

end Value

/-! ## Failing on other shapes

Whatever operator holds got the shapes that it asks for, so the negated ones fail on other
shapes like the rest.
-/

theorem Comparison.isNumber_of_holdsOfSize {comparison : Comparison} {size : Nat}
    {operand : Value} (h : comparison.holdsOfSize size operand = true) : operand.IsNumber := by
  cases operand with
  | number n => exact ⟨n, rfl⟩
  | _ => cases h

theorem ArrayOperator.takes_of_holdsOfItems {op : ArrayOperator} {items : List Value}
    {operand : Value} (h : op.holdsOfItems items operand = true) : op.Takes operand := by
  cases op with
  | size comparison => exact Comparison.isNumber_of_holdsOfSize h
  | isEmpty | isNotEmpty => trivial
  | _ =>
      rcases (Option.any_eq_true _ _).mp h with ⟨wanted, hwanted, _⟩
      exact ⟨wanted, Value.items?_eq_some_iff.mp hwanted⟩

theorem DateOperator.takes_of_holdsOfInstant {op : DateOperator} {now t : Instant}
    {operand : Value} (h : op.holdsOfInstant now t operand = true) : op.Takes operand := by
  cases op with
  | isWeekday | isWeekend => trivial
  | between | notBetween =>
      rcases (Option.any_eq_true _ _).mp h with ⟨window, hwindow, _⟩
      exact (Value.isWindow_iff now).mpr ⟨window, hwindow⟩
  | _ =>
      rcases (Option.any_eq_true _ _).mp h with ⟨target, htarget, _⟩
      exact Value.isDate_iff.mpr ⟨target, htarget⟩

theorem MapOperator.takes_of_holdsOfEntries {op : MapOperator} {entries : List (Value × Value)}
    {operand : Value} (h : op.holdsOfEntries entries operand = true) : op.Takes operand := by
  cases op with
  | contains =>
      rcases (Option.any_eq_true _ _).mp h with ⟨wanted, hwanted, _⟩
      exact Value.isMap_or_isObject_iff.mpr ⟨wanted, hwanted⟩
  | size comparison => exact Comparison.isNumber_of_holdsOfSize h
  | _ => trivial

theorem NumberOperator.takes_of_holdsOfNumber {op : NumberOperator} {n : Number}
    {operand : Value} (h : op.holdsOfNumber n operand = true) : op.Takes operand := by
  cases op with
  | between | notBetween =>
      rcases (Option.any_eq_true _ _).mp h with ⟨⟨low, high⟩, hbounds, _⟩
      exact ⟨low, high, Value.bounds?_eq_some_iff.mp hbounds⟩
  | among | notAmong =>
      rcases (Option.any_eq_true _ _).mp h with ⟨ns, hnumbers, _⟩
      exact ⟨ns, Value.numbers?_eq_some_iff.mp hnumbers⟩
  | _ =>
      rcases (Option.any_eq_true _ _).mp h with ⟨target, htarget, _⟩
      exact ⟨target, (Value.number?_eq_some_iff operand target).mp htarget⟩

theorem ObjectOperator.takes_of_holdsOfFields {op : ObjectOperator}
    {fields : List (String × Value)} {operand : Value}
    (h : op.holdsOfFields fields operand = true) : op.Takes operand := by
  cases op with
  | contains | notContains | equals | notEquals =>
      rcases Option.isSome_iff_exists.mp (Bool.and_eq_true_iff.mp h).1 with ⟨wanted, hwanted⟩
      exact ⟨wanted, Value.object?_eq_some_iff.mp hwanted⟩
  | hasKey | notHasKey =>
      rcases (Option.any_eq_true _ _).mp h with ⟨key, hkey, _⟩
      exact ⟨key, (Value.string?_eq_some_iff operand key).mp hkey⟩
  | _ => trivial

theorem StringOperator.takes_of_holdsOfText {op : StringOperator} {text : String}
    {operand : Value} (h : op.holdsOfText text operand = true) : op.Takes operand := by
  cases op with
  | matchesRegex | notMatchesRegex =>
      rcases (Option.any_eq_true _ _).mp h with ⟨p, hpattern, _⟩
      exact Value.isPattern_iff.mpr ⟨p, hpattern⟩
  | among | notAmong =>
      rcases (Option.any_eq_true _ _).mp h with ⟨texts, htexts, _⟩
      exact ⟨texts, Value.strings?_eq_some_iff.mp htexts⟩
  | isEmpty | isNotEmpty => trivial
  | _ =>
      rcases (Option.any_eq_true _ _).mp h with ⟨part, hpart, _⟩
      exact ⟨part, (Value.string?_eq_some_iff operand part).mp hpart⟩

theorem Value.isNil_eq_false_iff {v : Value} : v.isNil = false ↔ v ≠ .undefined ∧ v ≠ .null := by
  cases v <;> simp [isNil, isUndefined, isNull]

namespace Operator

theorem fits_of_holds {op : Operator} {now : Instant} {v operand : Value}
    (h : op.holds now v operand = true) : op.Fits v operand := by
  cases op with
  | array op =>
      cases v with
      | array items => exact ⟨⟨items, rfl⟩, op.takes_of_holdsOfItems h⟩
      | _ => cases h
  | boolean op =>
      cases op with
      | is | isNot =>
          cases v with
          | boolean a =>
              cases operand with
              | boolean b => exact ⟨⟨a, rfl⟩, ⟨b, rfl⟩⟩
              | _ => cases h
          | _ => cases h
      | _ => trivial
  | date op =>
      rcases (Option.any_eq_true _ _).mp h with ⟨t, ht, hholds⟩
      exact ⟨Value.isDate_iff.mpr ⟨t, ht⟩, op.takes_of_holdsOfInstant hholds⟩
  | geo op =>
      simp only [holds, GeoOperator.holds] at h
      split at h
      · next place area hplace harea =>
          exact ⟨Value.isPlace_iff.mpr ⟨place, hplace⟩, Value.isArea_iff.mpr ⟨area, harea⟩⟩
      · cases h
  | map op =>
      rcases (Option.any_eq_true _ _).mp h with ⟨entries, hentries, hholds⟩
      exact ⟨Value.isMap_or_isObject_iff.mpr ⟨entries, hentries⟩,
        op.takes_of_holdsOfEntries hholds⟩
  | number op =>
      cases v with
      | number n => exact ⟨⟨n, rfl⟩, op.takes_of_holdsOfNumber h⟩
      | _ => cases h
  | object op =>
      cases v with
      | object fields => exact ⟨⟨fields, rfl⟩, op.takes_of_holdsOfFields h⟩
      | _ => cases h
  | set op =>
      simp only [holds, SetOperator.holds] at h
      split at h
      · cases h
      · next items hitems =>
          refine ⟨⟨items, Value.items?_eq_some_iff.mp hitems⟩, ?_⟩
          cases op with
          | ofArray op => exact op.takes_of_holdsOfItems h
          | has | notHas => trivial
  | string op =>
      rcases Bool.and_eq_true_iff.mp h with ⟨hpresent, hholds⟩
      rw [Bool.not_eq_true', Value.isNil_eq_false_iff] at hpresent
      exact ⟨hpresent.1, hpresent.2, op.takes_of_holdsOfText hholds⟩

end Operator

end RecordFilter
