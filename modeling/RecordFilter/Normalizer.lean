import RecordFilter.Value.Fold
import Std.Data.TreeMap

/-!
# Folding with a memory

A normalizer folds texts and values and may remember the texts it has folded, so
that none is folded twice.  What it remembers has no influence on what it answers:
the answer is the comparison form, whatever was asked before.
-/

namespace RecordFilter

/-! ## Runs of stateful work -/

theorem bind_apply (task : StateM σ α) (next : α → StateM σ β) (s : σ) :
    (task >>= next) s = next (task s).1 (task s).2 := rfl

theorem pure_apply (a : α) (s : σ) : (pure a : StateM σ α) s = (a, s) := rfl

theorem get_apply (s : σ) : (get : StateM σ σ) s = (s, s) := rfl

/-! ## What is remembered -/

/-- The folded texts remembered so far, or nothing at all if none are to be remembered. -/
structure Normalizer where
  memo : Option (Std.TreeMap String String)
  /-- What is remembered of a text is its comparison form. -/
  faithful : ∀ table ∈ memo, ∀ s known, table[s]? = some known → known = foldText s

namespace Normalizer

def remembering : Normalizer where
  memo := some ∅
  faithful := by
    intro table htable s known hknown
    cases htable
    rw [Std.TreeMap.getElem?_emptyc] at hknown
    cases hknown

def forgetful : Normalizer where
  memo := none
  faithful := by
    intro table htable
    cases htable

def size (normalizer : Normalizer) : Nat :=
  match normalizer.memo with
  | some memo => memo.size
  | none => 0

def clear (normalizer : Normalizer) : Normalizer :=
  match normalizer.memo with
  | some _ => remembering
  | none => forgetful

def remembered? (normalizer : Normalizer) (s : String) : Option String :=
  normalizer.memo.bind fun table => table[s]?

/-- Remember the comparison form of a text, if texts are to be remembered. -/
def remember (s folded : String) (h : folded = foldText s) (normalizer : Normalizer) :
    Normalizer where
  memo := normalizer.memo.map fun table => table.insert s folded
  faithful := by
    intro table htable text known hknown
    rcases Option.map_eq_some_iff.mp htable with ⟨before, hbefore, rfl⟩
    rw [Std.TreeMap.getElem?_insert] at hknown
    split at hknown
    · next heq =>
        cases hknown
        rw [h, Std.LawfulEqCmp.eq_of_compare heq]
    · exact normalizer.faithful before hbefore text known hknown

def text (s : String) : StateM Normalizer String := do
  match (← get).remembered? s with
  | some known => return known
  | none =>
      let folded := foldText s
      modify (remember s folded rfl)
      return folded

theorem eq_foldText_of_remembered? {normalizer : Normalizer} {s known : String}
    (h : normalizer.remembered? s = some known) : known = foldText s := by
  rcases Option.bind_eq_some_iff.mp h with ⟨table, htable, hknown⟩
  exact normalizer.faithful table htable s known hknown

theorem text_fst (s : String) (normalizer : Normalizer) :
    (text s normalizer).1 = foldText s := by
  unfold text
  rw [bind_apply]
  show ((match normalizer.remembered? s with
    | some known => _
    | none => _ : StateM Normalizer String) normalizer).1 = foldText s
  cases hrecall : normalizer.remembered? s with
  | none => rfl
  | some known => exact eq_foldText_of_remembered? hrecall

/-! ## Values -/

mutual

/-- Fold every string in a value, in the order in which they are stored. -/
def value : Value → StateM Normalizer Value
  | .string s => return .string (← text s)
  | .array items => return .array (← valueItems items)
  | .set items => return Value.setOf (← valueItems items)
  | .map entries => return .map (← valueEntries entries)
  | .object fields => return .object (← valueFields fields)
  | v => return v
termination_by structural v => v

def valueItems : List Value → StateM Normalizer (List Value)
  | [] => return []
  | item :: rest => return (← value item) :: (← valueItems rest)
termination_by structural items => items

def valueEntry : Value × Value → StateM Normalizer (Value × Value)
  | (key, v) => return (key, ← value v)
termination_by structural entry => entry

def valueEntries : List (Value × Value) → StateM Normalizer (List (Value × Value))
  | [] => return []
  | entry :: rest => return (← valueEntry entry) :: (← valueEntries rest)
termination_by structural entries => entries

def valueField : String × Value → StateM Normalizer (String × Value)
  | (name, v) => return (name, ← value v)
termination_by structural field => field

def valueFields : List (String × Value) → StateM Normalizer (List (String × Value))
  | [] => return []
  | field :: rest => return (← valueField field) :: (← valueFields rest)
termination_by structural fields => fields

end

/-!
## Answers

The lemmas follow the recursion of folding, one for each kind of part.
-/

mutual

theorem value_fst (v : Value) (normalizer : Normalizer) :
    (value v normalizer).1 = v.folded := by
  cases v with
  | string s => simp only [value, Value.folded, bind_apply, pure_apply, text_fst]
  | array items => simp only [value, Value.folded, bind_apply, pure_apply, valueItems_fst items]
  | set items => simp only [value, Value.folded, bind_apply, pure_apply, valueItems_fst items]
  | map entries =>
      simp only [value, Value.folded, bind_apply, pure_apply, valueEntries_fst entries]
  | object fields =>
      simp only [value, Value.folded, bind_apply, pure_apply, valueFields_fst fields]
  | _ => rfl
termination_by structural v

theorem valueItems_fst (items : List Value) (normalizer : Normalizer) :
    (valueItems items normalizer).1 = Value.foldedItems items := by
  cases items with
  | nil => rfl
  | cons item rest =>
      simp only [valueItems, Value.foldedItems, bind_apply, pure_apply, value_fst item,
        valueItems_fst rest]
termination_by structural items

theorem valueEntry_fst (entry : Value × Value) (normalizer : Normalizer) :
    (valueEntry entry normalizer).1 = Value.foldedEntry entry := by
  cases entry with
  | mk key v => simp only [valueEntry, Value.foldedEntry, bind_apply, pure_apply, value_fst v]
termination_by structural entry

theorem valueEntries_fst (entries : List (Value × Value)) (normalizer : Normalizer) :
    (valueEntries entries normalizer).1 = Value.foldedEntries entries := by
  cases entries with
  | nil => rfl
  | cons entry rest =>
      simp only [valueEntries, Value.foldedEntries, bind_apply, pure_apply,
        valueEntry_fst entry, valueEntries_fst rest]
termination_by structural entries

theorem valueField_fst (field : String × Value) (normalizer : Normalizer) :
    (valueField field normalizer).1 = Value.foldedField field := by
  cases field with
  | mk name v => simp only [valueField, Value.foldedField, bind_apply, pure_apply, value_fst v]
termination_by structural field

theorem valueFields_fst (fields : List (String × Value)) (normalizer : Normalizer) :
    (valueFields fields normalizer).1 = Value.foldedFields fields := by
  cases fields with
  | nil => rfl
  | cons field rest =>
      simp only [valueFields, Value.foldedFields, bind_apply, pure_apply,
        valueField_fst field, valueFields_fst rest]
termination_by structural fields

end

end Normalizer
end RecordFilter
