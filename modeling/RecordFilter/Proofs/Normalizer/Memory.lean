import Mathlib.Data.Finset.Card
import Mathlib.Data.List.DropRight
import RecordFilter.Normalizer

/-!
# What a normalizer remembers

Folding a value comes upon the strings in it, wherever they stand, and looks each of them up.
One that is remembered already changes nothing, and any other is remembered from then on.  So the
memory afterwards depends on which strings there were, and not on their places or their number.

Each step of folding is described by the texts that it comes upon, and two steps in a row come
upon the texts of both.  Over a sequence of uses only those since the last clearing count.
-/

namespace RecordFilter

/-! ## Strings in a value -/

namespace Value

mutual

/-- The strings in a value, at any depth and as often as they occur; keys are not among them. -/
def texts : Value → List String
  | .string s => [s]
  | .array items | .set items => textsOfItems items
  | .map entries => textsOfEntries entries
  | .object fields => textsOfFields fields
  | _ => []
termination_by structural v => v

def textsOfItems : List Value → List String
  | [] => []
  | item :: rest => texts item ++ textsOfItems rest
termination_by structural items => items

def textsOfEntry : Value × Value → List String
  | (_, value) => texts value
termination_by structural entry => entry

def textsOfEntries : List (Value × Value) → List String
  | [] => []
  | entry :: rest => textsOfEntry entry ++ textsOfEntries rest
termination_by structural entries => entries

def textsOfField : String × Value → List String
  | (_, value) => texts value
termination_by structural field => field

def textsOfFields : List (String × Value) → List String
  | [] => []
  | field :: rest => textsOfField field ++ textsOfFields rest
termination_by structural fields => fields

end

end Value

namespace Normalizer

/-! ## The memory -/

def known (normalizer : Normalizer) : Option (Finset String) :=
  normalizer.memo.map fun table => table.keys.toFinset

theorem size_eq (normalizer : Normalizer) : normalizer.size = (normalizer.known.getD ∅).card := by
  unfold size known
  cases normalizer.memo with
  | none => rfl
  | some table =>
      rw [Option.map_some, Option.getD_some, List.toFinset_card_of_nodup Std.TreeMap.nodup_keys,
        Std.TreeMap.length_keys]

theorem remembered?_eq (normalizer : Normalizer) (s : String) :
    normalizer.remembered? s =
      normalizer.known.bind fun texts => if s ∈ texts then some (foldText s) else none := by
  unfold remembered? known
  cases hmemo : normalizer.memo with
  | none => rfl
  | some table =>
      have hmem : s ∈ table.keys.toFinset ↔ table[s]?.isSome = true := by
        rw [List.mem_toFinset, Std.TreeMap.mem_keys, Std.TreeMap.mem_iff_isSome_getElem?]
      rw [Option.map_some, Option.bind_some, Option.bind_some]
      cases hlookup : table[s]? with
      | none =>
          rw [hlookup] at hmem
          rw [if_neg fun hs => Bool.false_ne_true (hmem.mp hs)]
      | some folded =>
          rw [hlookup] at hmem
          rw [if_pos (hmem.mpr rfl), normalizer.faithful table hmemo s folded hlookup]

theorem known_remember (s folded : String) (h : folded = foldText s) (normalizer : Normalizer) :
    (remember s folded h normalizer).known = normalizer.known.map (insert s) := by
  unfold known remember
  rw [Option.map_map, Option.map_map]
  congr 1
  funext table
  ext t
  simp only [Function.comp_apply, List.mem_toFinset, Finset.mem_insert, Std.TreeMap.mem_keys]
  rw [Std.TreeMap.mem_insert, Std.compare_eq_iff_eq, eq_comm]

/-! ## Steps of folding -/

/-- The task adds the texts to the memory, if there is one. -/
def Visits {α : Type} (task : StateM Normalizer α) (texts : List String) : Prop :=
  ∀ normalizer, (task normalizer).2.known = normalizer.known.map (· ∪ texts.toFinset)

section Visits

variable {α β : Type} {task : StateM Normalizer α} {next : α → StateM Normalizer β}
  {first second : List String}

theorem visits_pure (a : α) : Visits (pure a) [] := by
  intro normalizer
  rw [pure_apply, List.toFinset_nil]
  simp only [Finset.union_empty, Option.map_id']

theorem Visits.bind (htask : Visits task first) (hnext : ∀ a, Visits (next a) second) :
    Visits (task >>= next) (first ++ second) := by
  intro normalizer
  rw [bind_apply, hnext, htask, Option.map_map, List.toFinset_append]
  congr 1
  funext before
  exact Finset.union_assoc before first.toFinset second.toFinset

theorem Visits.bind_pure (h : Visits task first) (f : α → β) :
    Visits (task >>= fun a => pure (f a)) first := by
  rw [← List.append_nil first]
  exact h.bind fun a => visits_pure (f a)

end Visits

theorem text_snd (s : String) (normalizer : Normalizer) :
    (text s normalizer).2 =
      if (normalizer.remembered? s).isSome then normalizer
      else remember s (foldText s) rfl normalizer := by
  simp only [text, bind_apply, get_apply]
  cases normalizer.remembered? s with
  | none => rfl
  | some known => rfl

theorem visits_text (s : String) : Visits (text s) [s] := by
  intro normalizer
  have hadded : ∀ texts : Finset String, texts ∪ [s].toFinset = insert s texts := by
    intro texts
    simp
  have hremember := known_remember s (foldText s) rfl normalizer
  simp only [text_snd, remembered?_eq, hadded]
  cases hknown : normalizer.known with
  | none =>
      rw [hknown] at hremember
      exact hremember
  | some texts =>
      rw [Option.bind_some, Option.map_some]
      by_cases h : s ∈ texts
      · rw [if_pos h, Finset.insert_eq_of_mem h]
        exact hknown
      · rw [if_neg h, ← Option.map_some, ← hknown]
        exact hremember

mutual

theorem visits_value (v : Value) : Visits (value v) v.texts := by
  cases v with
  | string s => exact (visits_text s).bind_pure Value.string
  | array items => exact (visits_valueItems items).bind_pure Value.array
  | set items => exact (visits_valueItems items).bind_pure Value.setOf
  | map entries => exact (visits_valueEntries entries).bind_pure Value.map
  | object fields => exact (visits_valueFields fields).bind_pure Value.object
  | _ => exact visits_pure _
termination_by structural v

theorem visits_valueItems (items : List Value) :
    Visits (valueItems items) (Value.textsOfItems items) := by
  cases items with
  | nil => exact visits_pure []
  | cons item rest =>
      exact (visits_value item).bind fun _ => (visits_valueItems rest).bind_pure _
termination_by structural items

theorem visits_valueEntry (entry : Value × Value) :
    Visits (valueEntry entry) (Value.textsOfEntry entry) := by
  cases entry with
  | mk key v => exact (visits_value v).bind_pure (Prod.mk key)
termination_by structural entry

theorem visits_valueEntries (entries : List (Value × Value)) :
    Visits (valueEntries entries) (Value.textsOfEntries entries) := by
  cases entries with
  | nil => exact visits_pure []
  | cons entry rest =>
      exact (visits_valueEntry entry).bind fun _ => (visits_valueEntries rest).bind_pure _
termination_by structural entries

theorem visits_valueField (field : String × Value) :
    Visits (valueField field) (Value.textsOfField field) := by
  cases field with
  | mk name v => exact (visits_value v).bind_pure (Prod.mk name)
termination_by structural field

theorem visits_valueFields (fields : List (String × Value)) :
    Visits (valueFields fields) (Value.textsOfFields fields) := by
  cases fields with
  | nil => exact visits_pure []
  | cons field rest =>
      exact (visits_valueField field).bind fun _ => (visits_valueFields rest).bind_pure _
termination_by structural fields

end

/-! ## Uses in a row -/

inductive Use where
  | text (s : String)
  | value (v : Value)
  | clear

namespace Use

def apply (normalizer : Normalizer) : Use → Normalizer
  | .text s => (Normalizer.text s normalizer).2
  | .value v => (Normalizer.value v normalizer).2
  | .clear => normalizer.clear

def isClear : Use → Bool
  | .clear => true
  | _ => false

/-- The strings that are given to be folded, alone or in a value. -/
def texts : Use → List String
  | .text s => [s]
  | .value v => v.texts
  | .clear => []

/-- The strings that were given since the memory was last cleared. -/
def textsSinceClear (uses : List Use) : List String :=
  (uses.rtakeWhile fun use => !use.isClear).flatMap texts

theorem textsSinceClear_concat (uses : List Use) (use : Use) :
    textsSinceClear (uses ++ [use]) =
      if use.isClear then [] else textsSinceClear uses ++ use.texts := by
  unfold textsSinceClear
  rw [List.rtakeWhile_concat]
  cases use.isClear with
  | true => rfl
  | false => simp

theorem known_apply (normalizer : Normalizer) (use : Use) :
    (use.apply normalizer).known =
      normalizer.known.map fun before =>
        if use.isClear then ∅ else before ∪ use.texts.toFinset := by
  cases use with
  | text s => exact visits_text s normalizer
  | value v => exact visits_value v normalizer
  | clear =>
      unfold apply Normalizer.clear known
      cases normalizer.memo with
      | none => rfl
      | some table => rfl

/-- Before a memory is cleared for the first time, what it held in the beginning counts too. -/
theorem known_foldl (normalizer : Normalizer) (uses : List Use) :
    (uses.foldl apply normalizer).known =
      normalizer.known.map fun before =>
        (if uses.any isClear then ∅ else before) ∪ (textsSinceClear uses).toFinset := by
  induction uses using List.reverseRecOn with
  | nil => simp [textsSinceClear]
  | append_singleton uses use ih =>
      rw [List.foldl_concat, known_apply, ih, Option.map_map, textsSinceClear_concat]
      congr 1
      funext before
      cases h : use.isClear with
      | true => simp [h]
      | false => simp [h, Finset.union_assoc]

end Use

end Normalizer

/--
However a normalizer is used, it remembers just the strings given since it was last cleared, each
with its comparison form, and as many as there are different ones.  Without a memory it remembers
nothing.
-/
theorem memory_counts_texts (uses : List Normalizer.Use) :
    let texts := Normalizer.Use.textsSinceClear uses
    let remembering := uses.foldl Normalizer.Use.apply .remembering
    let forgetful := uses.foldl Normalizer.Use.apply .forgetful
    remembering.size = texts.toFinset.card ∧
      (∀ s, remembering.remembered? s = if s ∈ texts then some (foldText s) else none) ∧
      forgetful.size = 0 ∧ ∀ s, forgetful.remembered? s = none := by
  intro texts remembering forgetful
  have hempty : Normalizer.known .remembering = some ∅ := rfl
  have hremembering : remembering.known = some texts.toFinset := by
    rw [Normalizer.Use.known_foldl, hempty, Option.map_some, ite_self, Finset.empty_union]
  have hforgetful : forgetful.known = none := by
    rw [Normalizer.Use.known_foldl]
    rfl
  refine ⟨?_, ?_, ?_, ?_⟩
  · rw [Normalizer.size_eq, hremembering, Option.getD_some]
  · intro s
    simp only [Normalizer.remembered?_eq, hremembering, Option.bind_some, List.mem_toFinset]
  · rw [Normalizer.size_eq, hforgetful]
    rfl
  · intro s
    rw [Normalizer.remembered?_eq, hforgetful]
    rfl

example :
    let before := [Normalizer.Use.text "x", .clear]
    let uses := before ++ [.value (.set [.string "A", .string "a"]),
      .value (.map [(.string "k", .array [.string "a", .string "a"])])]
    (uses.foldl Normalizer.Use.apply .remembering).size = 2 := by
  decide +kernel

end RecordFilter
