import RecordFilter.Proofs.Text.Fold
import RecordFilter.Proofs.Value.Equality
import RecordFilter.Value.Fold

/-!
# Folding a value twice

Folding reaches every string in a value, and the items of a set that have become equal are
one afterwards.  Both are settled when it is done once: the strings are in comparison form, and
no item of a set equals an earlier one.

Fields and keys stay where they are, so what is looked up in a folded value is the folded form
of what is looked up in the value.
-/

namespace RecordFilter

namespace Value

/-! ## Parts of a folded value -/

theorem foldedItems_eq_map (items : List Value) : foldedItems items = items.map folded := by
  induction items with
  | nil => rfl
  | cons item rest ih => rw [foldedItems, ih, List.map_cons]

theorem foldedEntries_eq_map (entries : List (Value × Value)) :
    foldedEntries entries = entries.map fun entry => (entry.1, entry.2.folded) := by
  induction entries with
  | nil => rfl
  | cons entry rest ih => rw [foldedEntries, ih, List.map_cons, foldedEntry]

theorem foldedFields_eq_map (fields : List (String × Value)) :
    foldedFields fields = fields.map fun field => (field.1, field.2.folded) := by
  induction fields with
  | nil => rfl
  | cons field rest ih => rw [foldedFields, ih, List.map_cons, foldedField]

theorem folded_array (items : List Value) : (array items).folded = array (items.map folded) := by
  rw [folded, foldedItems_eq_map]

theorem folded_set (items : List Value) : (set items).folded = setOf (items.map folded) := by
  rw [folded, foldedItems_eq_map]

theorem folded_map (entries : List (Value × Value)) :
    (map entries).folded = map (entries.map fun entry => (entry.1, entry.2.folded)) := by
  rw [folded, foldedEntries_eq_map]

theorem folded_object (fields : List (String × Value)) :
    (object fields).folded = object (fields.map fun field => (field.1, field.2.folded)) := by
  rw [folded, foldedFields_eq_map]

/-! ## Folding again -/

theorem folded_folded (v : Value) : v.folded.folded = v.folded := by
  induction v using induction_parts with
  | step v ih =>
      cases v with
      | string s => rw [folded, folded, foldText_foldText]
      | array items =>
          have hitems : ∀ item ∈ items, item.folded.folded = item.folded := ih
          rw [folded_array, folded_array, List.map_map]
          exact congrArg array (List.map_congr_left hitems)
      | set items =>
          have hkept : ∀ kept ∈ distinct (items.map folded), kept.folded = kept := by
            intro kept hkept
            rcases List.mem_map.mp (mem_of_mem_distinct hkept) with ⟨item, hitem, rfl⟩
            exact ih item hitem
          rw [folded_set, setOf, folded_set, setOf, List.map_congr_left hkept, List.map_id',
            distinct_distinct]
      | map entries =>
          have hentries : ∀ entry ∈ entries, entry.2.folded.folded = entry.2.folded := by
            intro entry hentry
            exact ih _ (mem_parts_map_value hentry)
          rw [folded_map, folded_map, List.map_map]
          refine congrArg map (List.map_congr_left ?_)
          intro entry hentry
          exact congrArg (Prod.mk entry.1) (hentries entry hentry)
      | object fields =>
          have hfields : ∀ field ∈ fields, field.2.folded.folded = field.2.folded := by
            intro field hfield
            exact ih _ (mem_parts_object hfield)
          rw [folded_object, folded_object, List.map_map]
          refine congrArg object (List.map_congr_left ?_)
          intro field hfield
          exact congrArg (Prod.mk field.1) (hfields field hfield)
      | _ => rfl

/-! ## Look-up in a folded value -/

theorem isContainer_folded (v : Value) : v.folded.isContainer = v.isContainer := by
  cases v with
  | string s => simp only [folded, isContainer]
  | _ => rfl

theorem isNil_folded (v : Value) : v.folded.isNil = v.isNil := by
  cases v with
  | string s => simp only [folded, isNil, isUndefined, isNull]
  | _ => rfl

theorem array?_folded (v : Value) : v.folded.array? = v.array?.map (List.map folded) := by
  cases v with
  | array items =>
      rw [folded_array]
      rfl
  | _ => rfl

theorem lookup_map_folded (fields : List (String × Value)) (name : String) :
    (fields.map fun field => (field.1, field.2.folded)).lookup name =
      (fields.lookup name).map folded := by
  induction fields with
  | nil => rfl
  | cons field rest ih =>
      rw [List.map_cons, List.lookup_cons, List.lookup_cons, ih]
      cases name == field.1 with
      | true => rfl
      | false => rfl

theorem get?_folded (v : Value) (name : String) :
    v.folded.get? name = (v.get? name).map folded := by
  cases v with
  | object fields =>
      rw [folded_object]
      exact lookup_map_folded fields name
  | map entries =>
      rw [folded_map, get?, get?, List.find?_map, Option.map_map, Option.map_map]
      rfl
  | _ => rfl

end Value
end RecordFilter
