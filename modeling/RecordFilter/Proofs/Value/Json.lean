import RecordFilter.Proofs.Number.Rounding
import RecordFilter.Proofs.Value.Equality
import RecordFilter.Value.Text

/-!
# Values and their JSON

Converting to JSON merges kinds of values, and leaves undefined fields out.  What comes out is
settled: read as a value and converted again it stays the same.  A container is settled if what
is in it is settled, and of the scalars only the numbers take a proof.

On values that JSON knows all of, nothing is lost, but for the sign of a zero.
-/

namespace RecordFilter

/-! ## Numbers -/

namespace Number

theorem same_zero {n : Number} (h : n.isZero = true) : zero.same n = true := by
  have hmagnitude : n.magnitude = 0 := eq_of_beq h
  have hnan : n.isNaN = false := by
    unfold isNaN
    rw [hmagnitude]
    rfl
  have hposition : n.position = 0 := by
    unfold position
    rw [hmagnitude]
    simp
  exact same_iff.mpr ⟨hnan.symm, fun _ => hposition.symm⟩

theorem ofInt_same {n : Number} {i : Int} (h : n.toInt? = some i) : (ofInt i).same n = true := by
  rcases toInt?_eq_some h with ⟨hzero, rfl⟩ | ⟨-, heq⟩
  · exact same_zero hzero
  · rw [heq]
    exact same_refl n

theorem toInt?_ofInt {n : Number} {i : Int} (h : n.toInt? = some i) :
    (ofInt i).toInt? = some i := by
  rcases toInt?_eq_some h with ⟨-, rfl⟩ | ⟨-, heq⟩
  · rfl
  · rw [heq, h]

end Number

namespace Value

/-! ## Parts of JSON -/

theorem jsonItems_eq_map (items : List Value) : jsonItems items = items.map toJson := by
  induction items with
  | nil => rfl
  | cons item rest ih => simp only [jsonItems, List.map_cons, ih]

theorem jsonPairs_eq_map (entries : List (Value × Value)) :
    jsonPairs entries = entries.map fun entry => .array [entry.1.toJson, entry.2.toJson] := by
  induction entries with
  | nil => rfl
  | cons entry rest ih =>
      obtain ⟨key, value⟩ := entry
      simp only [jsonPairs, jsonPair, List.map_cons, ih]

theorem jsonNamed_eq_map (entries : List (Value × Value)) :
    jsonNamed entries = entries.map fun entry => (entry.1.string?.getD "", entry.2.toJson) := by
  induction entries with
  | nil => rfl
  | cons entry rest ih =>
      obtain ⟨key, value⟩ := entry
      simp only [jsonNamed, jsonNamedEntry, List.map_cons, ih]

theorem jsonFields_eq_map (fields : List (String × Value)) :
    jsonFields fields = (fields.filter fun field => !field.2.isUndefined).map fun field =>
      (field.1, field.2.toJson) := by
  induction fields with
  | nil => rfl
  | cons field rest ih =>
      obtain ⟨name, value⟩ := field
      cases h : value.isUndefined <;> simp [jsonFields, jsonField, h, ih]

theorem ofJsonItems_eq_map (items : List Json) : ofJsonItems items = items.map ofJson := by
  induction items with
  | nil => rfl
  | cons item rest ih => simp only [ofJsonItems, List.map_cons, ih]

theorem ofJsonFields_eq_map (fields : List (String × Json)) :
    ofJsonFields fields = fields.map fun field => (field.1, ofJson field.2) := by
  induction fields with
  | nil => rfl
  | cons field rest ih =>
      obtain ⟨name, json⟩ := field
      simp only [ofJsonFields, ofJsonField, List.map_cons, ih]

theorem isUndefined_ofJson (json : Json) : (ofJson json).isUndefined = false := by
  cases json <;> rfl

end Value

/-! ## Settled JSON -/

namespace Json

def IsSettled (json : Json) : Prop :=
  (Value.ofJson json).toJson = json

theorem isSettled_array {items : List Json} (h : ∀ item ∈ items, item.IsSettled) :
    (Json.array items).IsSettled := by
  unfold IsSettled
  rw [Value.ofJson, Value.toJson, Value.jsonItems_eq_map, Value.ofJsonItems_eq_map, List.map_map]
  exact congrArg Json.array ((List.map_congr_left h).trans (List.map_id items))

theorem isSettled_object {fields : List (String × Json)} (h : ∀ field ∈ fields, field.2.IsSettled) :
    (Json.object fields).IsSettled := by
  unfold IsSettled
  have hdefined : ((fields.map fun field => (field.1, Value.ofJson field.2)).filter fun field =>
      !field.2.isUndefined) = fields.map fun field => (field.1, Value.ofJson field.2) := by
    rw [List.filter_eq_self]
    intro field hfield
    rcases List.mem_map.mp hfield with ⟨source, -, rfl⟩
    rw [Value.isUndefined_ofJson]
    rfl
  rw [Value.ofJson, Value.toJson, Value.jsonFields_eq_map, Value.ofJsonFields_eq_map, hdefined,
    List.map_map]
  refine congrArg Json.object ((List.map_congr_left ?_).trans (List.map_id fields))
  intro field hfield
  exact Prod.ext rfl (h field hfield)

theorem isSettled_numberJson (n : Number) : (Value.numberJson n).IsSettled := by
  unfold IsSettled Value.numberJson
  cases hinteger : n.toInt? with
  | some i =>
      dsimp only
      split
      · next hsmall =>
          rw [Value.ofJson, Value.toJson, Value.numberJson, Number.toInt?_ofInt hinteger]
          exact if_pos hsmall
      · next hlarge =>
          rw [Value.ofJson, Value.toJson, Value.numberJson, hinteger]
          exact if_neg hlarge
  | none =>
      dsimp only
      split
      · rfl
      · next hfinite =>
          rw [Value.ofJson, Value.toJson, Value.numberJson, hinteger]
          exact if_neg hfinite

end Json

namespace Value

/-- Whatever a value is converted to is settled. -/
theorem isSettled_toJson (v : Value) : v.toJson.IsSettled := by
  induction v using induction_parts with
  | step v ih =>
      cases v with
      | number n => exact Json.isSettled_numberJson n
      | array items =>
          rw [toJson, jsonItems_eq_map]
          exact Json.isSettled_array (List.forall_mem_map.mpr ih)
      | set items =>
          rw [toJson, jsonItems_eq_map]
          exact Json.isSettled_array (List.forall_mem_map.mpr ih)
      | map entries =>
          rw [toJson]
          split
          · rw [Json.ofFields, jsonNamed_eq_map]
            refine Json.isSettled_object fun field hfield => ?_
            rcases List.mem_map.mp (Keyed.mem_ofList hfield) with ⟨entry, hentry, rfl⟩
            exact ih _ (mem_parts_map_value hentry)
          · rw [jsonPairs_eq_map]
            refine Json.isSettled_array (List.forall_mem_map.mpr fun entry hentry => ?_)
            apply Json.isSettled_array
            rw [List.forall_mem_cons, List.forall_mem_singleton]
            exact ⟨ih _ (mem_parts_map_key hentry), ih _ (mem_parts_map_value hentry)⟩
      | object fields =>
          rw [toJson, jsonFields_eq_map]
          refine Json.isSettled_object (List.forall_mem_map.mpr fun field hfield => ?_)
          exact ih _ (mem_parts_object (List.mem_of_mem_filter hfield))
      | _ => rfl

/-! ## Values that JSON knows all of -/

/-- The value is built from what JSON has as well, and its numbers are finite. -/
inductive IsData : Value → Prop
  | null : IsData .null
  | boolean (b : Bool) : IsData (.boolean b)
  | number {n : Number} (finite : n.IsFinite) : IsData (.number n)
  | string (s : String) : IsData (.string s)
  | array {items : List Value} (h : ∀ item ∈ items, IsData item) : IsData (.array items)
  | object {fields : List (String × Value)} (h : ∀ field ∈ fields, IsData field.2) :
      IsData (.object fields)

theorem IsData.isUndefined {v : Value} (h : v.IsData) : v.isUndefined = false := by
  cases h <;> rfl

theorem ofJson_numberJson {n : Number} (h : n.IsFinite) :
    (ofJson (numberJson n) == .number n) = true := by
  unfold numberJson
  cases hinteger : n.toInt? with
  | some i =>
      dsimp only
      split
      · exact Number.ofInt_same hinteger
      · exact beq_refl _
  | none =>
      rcases Number.isFinite_iff.mp h with ⟨hnan, hinfinite⟩
      dsimp only
      rw [hnan, hinfinite]
      exact beq_refl _

theorem ofJson_toJson {v : Value} (h : v.IsData) : (ofJson v.toJson == v) = true := by
  induction h with
  | null => rfl
  | boolean b => exact beq_refl _
  | number finite => exact ofJson_numberJson finite
  | string s => exact beq_refl _
  | array h ih =>
      rw [toJson, ofJson, jsonItems_eq_map, ofJsonItems_eq_map, List.map_map]
      refine beq_iff_equalBy.mpr (.array ?_)
      rw [List.forall₂_map_left_iff]
      exact List.forall₂_same.mpr ih
  | @object fields h ih =>
      have hdefined : (fields.filter fun field => !field.2.isUndefined) = fields := by
        rw [List.filter_eq_self]
        intro field hfield
        rw [(h field hfield).isUndefined]
        rfl
      rw [toJson, ofJson, jsonFields_eq_map, ofJsonFields_eq_map, hdefined, List.map_map]
      refine beq_iff_equalBy.mpr (.object ?_)
      rw [List.forall₂_map_left_iff]
      exact List.forall₂_same.mpr fun field hfield => ⟨rfl, ih field hfield⟩

/--
Converting to JSON is a projection: once more, by way of a value, it changes nothing.  And
what JSON knows all of comes back equal.
-/
theorem toJson_projection :
    (∀ v : Value, (ofJson v.toJson).toJson = v.toJson) ∧
      ∀ v : Value, v.IsData → (ofJson v.toJson == v) = true :=
  ⟨isSettled_toJson, fun _ => ofJson_toJson⟩

theorem toJson_projection_of_zero_and_limit :
    let items : List Value := [.number (.neg .zero), .number (.ofInt (2 ^ 63)), .null]
    let v : Value := .object [("items", .array items), ("name", .string "")]
    v.IsData ∧ (ofJson v.toJson == v) = true ∧ (ofJson v.toJson).toJson = v.toJson := by
  intro items v
  have hitems : (Value.array items).IsData := by
    apply IsData.array
    rw [List.forall_mem_cons, List.forall_mem_cons, List.forall_mem_singleton]
    exact ⟨.number (by decide), .number (by decide), .null⟩
  have hdata : v.IsData := by
    apply IsData.object
    rw [List.forall_mem_cons, List.forall_mem_singleton]
    exact ⟨hitems, .string ""⟩
  exact ⟨hdata, toJson_projection.2 v hdata, toJson_projection.1 v⟩

end Value
end RecordFilter
