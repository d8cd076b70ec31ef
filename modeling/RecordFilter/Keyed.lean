/-!
# Sorted association lists

Fields of objects, saved criteria and named partitions are all looked up by name
and listed in the order of their names.  They are kept as lists of pairs in
ascending order of the key; strings compare by code points.

The main statements describe insertion and erasure by their effect on look-up and on the
order of the keys.
-/

namespace RecordFilter

/-- A list of values under names, in ascending order of the names. -/
abbrev Keyed (α : Type) := List (String × α)

namespace Keyed

/-- Put a value under a key, in place of any value there. -/
def insert (key : String) (value : α) : List (String × α) → List (String × α)
  | [] => [(key, value)]
  | (k, v) :: rest =>
      if key < k then (key, value) :: (k, v) :: rest
      else if key = k then (key, value) :: rest
      else (k, v) :: insert key value rest

def erase (key : String) (entries : List (String × α)) : List (String × α) :=
  entries.filter fun entry => entry.1 != key

/-- Insert pairs one after another; the last value of a repeated key stays. -/
def ofList (pairs : List (String × α)) : List (String × α) :=
  pairs.foldl (fun entries pair => insert pair.1 pair.2 entries) []

def keys (entries : List (String × α)) : List String :=
  entries.map Prod.fst

def values (entries : List (String × α)) : List α :=
  entries.map Prod.snd

def contains (key : String) (entries : List (String × α)) : Bool :=
  (entries.lookup key).isSome

@[simp] theorem lookup_insert_self (key : String) (value : α) (entries : List (String × α)) :
    (insert key value entries).lookup key = some value := by
  induction entries with
  | nil => simp [insert]
  | cons entry rest ih =>
      obtain ⟨k, v⟩ := entry
      unfold insert
      split
      · simp
      · split
        · simp
        · next h => simp [List.lookup_cons, beq_eq_false_iff_ne.mpr h, ih]

theorem lookup_insert_of_ne {key other : String} (h : other ≠ key) (value : α)
    (entries : List (String × α)) :
    (insert key value entries).lookup other = entries.lookup other := by
  induction entries with
  | nil => simp [insert, List.lookup_cons, beq_eq_false_iff_ne.mpr h]
  | cons entry rest ih =>
      obtain ⟨k, v⟩ := entry
      unfold insert
      split
      · simp [List.lookup_cons, beq_eq_false_iff_ne.mpr h]
      · split
        · next heq =>
            subst heq
            simp [List.lookup_cons, beq_eq_false_iff_ne.mpr h]
        · simp [List.lookup_cons, ih]

theorem lookup_erase_self (key : String) (entries : List (String × α)) :
    (erase key entries).lookup key = none := by
  induction entries with
  | nil => rfl
  | cons entry rest ih =>
      obtain ⟨k, v⟩ := entry
      by_cases h : k = key
      · simpa [erase, h] using ih
      · simpa [erase, h, List.lookup_cons, beq_eq_false_iff_ne.mpr (Ne.symm h)] using ih

theorem lookup_erase_of_ne {key other : String} (h : other ≠ key) (entries : List (String × α)) :
    (erase key entries).lookup other = entries.lookup other := by
  induction entries with
  | nil => rfl
  | cons entry rest ih =>
      obtain ⟨k, v⟩ := entry
      by_cases hk : k = key
      · simpa [erase, hk, List.lookup_cons, beq_eq_false_iff_ne.mpr h] using ih
      · have herase : erase key ((k, v) :: rest) = (k, v) :: erase key rest := by
          simp [erase, hk]
        rw [herase, List.lookup_cons, List.lookup_cons, ih]

theorem mem_keys_iff {key : String} {entries : List (String × α)} :
    key ∈ keys entries ↔ ∃ value, entries.lookup key = some value := by
  induction entries with
  | nil => simp [keys]
  | cons entry rest ih =>
      obtain ⟨k, v⟩ := entry
      by_cases h : key = k
      · simp [keys, h]
      · simpa [keys, h, List.lookup_cons, beq_eq_false_iff_ne.mpr h] using ih

theorem contains_iff {key : String} {entries : List (String × α)} :
    contains key entries = true ↔ ∃ value, entries.lookup key = some value :=
  Option.isSome_iff_exists

theorem lookup_foldl_insert (key : String) (pairs entries : List (String × α)) :
    (pairs.foldl (fun entries pair => insert pair.1 pair.2 entries) entries).lookup key =
      (pairs.reverse ++ entries).lookup key := by
  induction pairs generalizing entries with
  | nil => rfl
  | cons pair rest ih =>
      obtain ⟨k, v⟩ := pair
      rw [List.foldl_cons, ih, List.reverse_cons, List.append_assoc, List.lookup_append,
        List.lookup_append]
      by_cases h : key = k
      · simp [h]
      · simp [lookup_insert_of_ne h, List.lookup_cons, beq_eq_false_iff_ne.mpr h]

theorem lookup_ofList (key : String) (pairs : List (String × α)) :
    (ofList pairs).lookup key = pairs.reverse.lookup key := by
  rw [ofList, lookup_foldl_insert, List.append_nil]

/-! ## Order -/

theorem mem_insert {key : String} {value : α} {entry : String × α}
    {entries : List (String × α)} (h : entry ∈ insert key value entries) :
    entry = (key, value) ∨ entry ∈ entries := by
  induction entries with
  | nil => exact .inl (List.mem_singleton.mp h)
  | cons first rest ih =>
      obtain ⟨k, v⟩ := first
      unfold insert at h
      split at h
      · exact List.mem_cons.mp h
      · split at h
        · exact (List.mem_cons.mp h).imp_right (List.mem_cons_of_mem _)
        · rcases List.mem_cons.mp h with rfl | hrest
          · exact .inr List.mem_cons_self
          · exact (ih hrest).imp_right (List.mem_cons_of_mem _)

theorem mem_ofList {entry : String × α} {pairs : List (String × α)} (h : entry ∈ ofList pairs) :
    entry ∈ pairs := by
  have hsubset : ofList pairs ⊆ pairs := by
    apply List.foldlRecOn (motive := fun entries => entries ⊆ pairs) pairs _ (List.nil_subset pairs)
    intro entries hentries pair hpair other hother
    rcases mem_insert hother with rfl | hmem
    · exact hpair
    · exact hentries hmem
  exact hsubset h

def Ascends (entries : List (String × α)) : Prop :=
  (keys entries).Pairwise (· < ·)

theorem ascends_cons {entry : String × α} {entries : List (String × α)} :
    Ascends (entry :: entries) ↔ (∀ other ∈ entries, entry.1 < other.1) ∧ Ascends entries := by
  simp [Ascends, keys]

theorem Ascends.insert {entries : List (String × α)} (h : Ascends entries) (key : String)
    (value : α) : Ascends (insert key value entries) := by
  induction entries with
  | nil => exact List.pairwise_singleton (· < ·) key
  | cons first rest ih =>
      obtain ⟨k, v⟩ := first
      rcases ascends_cons.mp h with ⟨hfirst, hrest⟩
      unfold Keyed.insert
      split
      · next hlt =>
          refine ascends_cons.mpr ⟨?_, h⟩
          intro other hother
          rcases List.mem_cons.mp hother with rfl | hmem
          · exact hlt
          · exact String.lt_trans hlt (hfirst other hmem)
      · next hle =>
          split
          · next heq => exact ascends_cons.mpr ⟨by rwa [heq], hrest⟩
          · next hne =>
              have hlt : k < key := String.not_le.mp fun hge =>
                hne (String.le_antisymm hge (String.not_lt.mp hle))
              refine ascends_cons.mpr ⟨?_, ih hrest⟩
              intro other hother
              rcases mem_insert hother with rfl | hmem
              · exact hlt
              · exact hfirst other hmem

theorem Ascends.erase {entries : List (String × α)} (h : Ascends entries) (key : String) :
    Ascends (erase key entries) :=
  List.Pairwise.sublist (List.filter_sublist.map Prod.fst) h

theorem Ascends.ofList (pairs : List (String × α)) : Ascends (ofList pairs) := by
  unfold Keyed.ofList
  refine List.foldlRecOn pairs _ (show Ascends [] from List.Pairwise.nil) ?_
  intro entries h pair _
  exact h.insert pair.1 pair.2

theorem Ascends.mem_iff_lookup {entries : List (String × α)} (h : Ascends entries) {key : String}
    {value : α} : (key, value) ∈ entries ↔ entries.lookup key = some value := by
  induction entries with
  | nil => simp
  | cons first rest ih =>
      obtain ⟨k, v⟩ := first
      rcases ascends_cons.mp h with ⟨hfirst, hrest⟩
      by_cases hkey : key = k
      · subst hkey
        have hnone : (key, value) ∉ rest := fun hmem => String.lt_irrefl key (hfirst _ hmem)
        simp [hnone, eq_comm]
      · simp [hkey, List.lookup_cons, beq_eq_false_iff_ne.mpr hkey, ih hrest]

end Keyed
end RecordFilter
