import Mathlib.Data.List.Nodup
import RecordFilter.Proofs.Value.Containment

/-!
# Maps and their sub-maps

Whether a map contains another one is asked of two objects, which have the display texts of
the keys for names.  Keys of different kinds may have one text, as null and the string of its
name do.  Then only the last of their entries is seen, in the map as in its sub-map, and these
need not be the same entry.

The main statement says for which sub-maps the test holds.  They include all whose keys are not
shown like any key that is left out.
-/

namespace RecordFilter

/-! ## What is seen of a map -/

/-- The value of the last entry whose key has a display text. -/
def shown? (text : String) (entries : List (Value × Value)) : Option Value :=
  (entries.reverse.find? fun entry => entry.1.display == text).map Prod.snd

theorem lookup_map_display (text : String) (entries : List (Value × Value)) :
    (entries.map fun entry => (entry.1.display, entry.2)).lookup text =
      (entries.find? fun entry => entry.1.display == text).map Prod.snd := by
  induction entries with
  | nil => rfl
  | cons entry rest ih =>
      rw [List.map_cons, List.lookup_cons, List.find?_cons, ih, BEq.comm]
      cases entry.1.display == text <;> rfl

theorem lookup_recordOf (text : String) (entries : List (Value × Value)) :
    (Keyed.ofList (entries.map fun entry => (entry.1.display, entry.2))).lookup text =
      shown? text entries := by
  rw [Keyed.lookup_ofList, ← List.map_reverse, lookup_map_display]
  rfl

theorem recordOf_contains_iff {entries wanted : List (Value × Value)} :
    (recordOf entries).contains (recordOf wanted) = true ↔
      ∀ text w, shown? text wanted = some w →
        ∃ v, shown? text entries = some v ∧ v.contains w = true := by
  let fieldsOf (entries : List (Value × Value)) : List (String × Value) :=
    Keyed.ofList (entries.map fun entry => (entry.1.display, entry.2))
  have hmem : ∀ entries text v, (text, v) ∈ fieldsOf entries ↔ shown? text entries = some v := by
    intro entries text v
    rw [← lookup_recordOf]
    exact (Keyed.Ascends.ofList _).mem_iff_lookup
  show Value.containsFields (fieldsOf entries) (fieldsOf wanted) = true ↔ _
  rw [Value.containsFields_iff]
  constructor
  · intro h text w hw
    rcases h (text, w) ((hmem wanted text w).mpr hw) with ⟨⟨name, v⟩, hfield, hname, hcontains⟩
    cases hname
    exact ⟨v, (hmem entries text v).mp hfield, hcontains⟩
  · rintro h ⟨text, w⟩ hpart
    rcases h text w ((hmem wanted text w).mp hpart) with ⟨v, hv, hcontains⟩
    exact ⟨(text, v), (hmem entries text v).mpr hv, rfl, hcontains⟩

/-! ## Parts of a map -/

theorem exists_shown {text : String} {entries : List (Value × Value)} {entry : Value × Value}
    (hentry : entry ∈ entries) (htext : entry.1.display = text) :
    ∃ v, shown? text entries = some v := by
  have hfound : (entries.reverse.find? fun other => other.1.display == text).isSome = true := by
    rw [List.find?_isSome]
    exact ⟨entry, List.mem_reverse.mpr hentry, beq_iff_eq.mpr htext⟩
  rcases Option.isSome_iff_exists.mp hfound with ⟨other, hother⟩
  exact ⟨other.2, congrArg (Option.map Prod.snd) hother⟩

theorem exists_mem_of_shown {text : String} {entries : List (Value × Value)} {v : Value}
    (h : shown? text entries = some v) : ∃ entry ∈ entries, entry.1.display = text := by
  rcases Option.map_eq_some_iff.mp h with ⟨entry, hfound, _⟩
  have hmem := List.mem_reverse.mp (List.mem_of_find?_eq_some hfound)
  have htext := List.find?_some (p := fun entry : Value × Value => entry.1.display == text) hfound
  exact ⟨entry, hmem, beq_iff_eq.mp htext⟩

/-- Of a map only the entries whose keys have the text count. -/
theorem shown_eq_of_filter_eq {text : String} {entries others : List (Value × Value)}
    (h : (entries.filter fun entry => entry.1.display == text) =
      others.filter fun entry => entry.1.display == text) :
    shown? text entries = shown? text others := by
  unfold shown?
  rw [← List.head?_filter, ← List.head?_filter, List.filter_reverse, List.filter_reverse, h]

theorem nodup_of_distinct {entries : List (Value × Value)}
    (h : (Value.map entries).HasDistinctParts) : entries.Nodup := by
  apply List.Pairwise.imp _ h
  rintro entry _ hne rfl
  rw [Value.beq_refl] at hne
  cases hne

theorem eq_of_sublist_of_subset {α : Type} {part whole : List α} (h : part.Sublist whole)
    (hnodup : whole.Nodup) (hsubset : whole ⊆ part) : part = whole :=
  h.eq_of_length_le (hnodup.subperm hsubset).length_le

theorem shown_eq_of_sublist {text : String} {entries wanted : List (Value × Value)}
    (hnodup : entries.Nodup) (h : wanted.Sublist entries)
    (hall : ∀ entry ∈ entries, entry.1.display = text → entry ∈ wanted) :
    shown? text wanted = shown? text entries := by
  apply shown_eq_of_filter_eq
  apply eq_of_sublist_of_subset (h.filter _) (hnodup.filter _)
  intro entry hentry
  rcases List.mem_filter.mp hentry with ⟨hmem, htext⟩
  exact List.mem_filter.mpr ⟨hall entry hmem (beq_iff_eq.mp htext), htext⟩

/--
A map contains a map of some of its entries exactly if under each text what is shown of the
whole map contains what is shown of the part.  So it does if no key that is left out is shown
like a key of the part.
-/
theorem contains_submap_iff {entries wanted : List (Value × Value)}
    (hwf : (Value.map entries).WellFormed) (h : wanted.Sublist entries) (now : Instant) :
    ((Operator.map .contains).holds now (.map entries) (.map wanted) = true ↔
      ∀ text v w, shown? text entries = some v → shown? text wanted = some w →
        v.contains w = true) ∧
    ((∀ entry ∈ entries, ∀ part ∈ wanted, entry.1.display = part.1.display → entry ∈ wanted) →
      (Operator.map .contains).holds now (.map entries) (.map wanted) = true) := by
  have hholds : (Operator.map .contains).holds now (.map entries) (.map wanted) = true ↔
      ∀ text v w, shown? text entries = some v → shown? text wanted = some w →
        v.contains w = true := by
    show (recordOf entries).contains (recordOf wanted) = true ↔ _
    rw [recordOf_contains_iff]
    constructor
    · intro hcontains text v w hv hw
      rcases hcontains text w hw with ⟨v', hv', hvw⟩
      rw [hv] at hv'
      cases hv'
      exact hvw
    · intro hcontains text w hw
      rcases exists_mem_of_shown hw with ⟨part, hpart, htext⟩
      rcases exists_shown (h.subset hpart) htext with ⟨v, hv⟩
      exact ⟨v, hv, hcontains text v w hv hw⟩
  constructor
  · exact hholds
  · intro hapart
    apply hholds.mpr
    intro text v w hv hw
    rcases exists_mem_of_shown hw with ⟨part, hpart, htext⟩
    have hall : ∀ entry ∈ entries, entry.1.display = text → entry ∈ wanted := by
      intro entry hentry hdisplay
      exact hapart entry hentry part hpart (hdisplay.trans htext.symm)
    rw [shown_eq_of_sublist (nodup_of_distinct hwf.distinct) h hall, hv] at hw
    cases hw
    exact Value.contains_refl v

theorem contains_submap_iff_of_null :
    let less : Value := .object [("a", .null)]
    let more : Value := .object [("a", .null), ("b", .null)]
    let entries : List (Value × Value) :=
      [(.null, less), (.string "null", more), (.boolean true, less)]
    (Value.map entries).WellFormed ∧
      (∀ now, (Operator.map .contains).holds now (.map entries) (.map [(.null, less)]) = true) ∧
      ∀ now, (Operator.map .contains).holds now (.map entries) (.map [(.boolean true, less)]) =
        true := by
  intro less more entries
  have hnull : Value.null.WellFormed := Value.wellFormed_of_parts_eq_nil trivial rfl
  have hobject : ∀ fields : List (String × Value), (∀ field ∈ fields, field.2 = .null) →
      (Value.object fields).WellFormed := by
    intro fields hfields
    apply Value.WellFormed.intro (v := .object fields) trivial
    intro part hpart
    rcases List.mem_map.mp hpart with ⟨field, hfield, rfl⟩
    rw [hfields field hfield]
    exact hnull
  have hless : less.WellFormed := hobject _ (by simp)
  have hmore : more.WellFormed := hobject _ (by simp)
  have hwf : (Value.map entries).WellFormed := by
    show (Value.mapOf entries).WellFormed
    apply Value.WellFormed.mapOf
    simp only [entries, List.forall_mem_cons]
    exact ⟨⟨hnull, hless⟩, ⟨Value.wellFormed_of_parts_eq_nil trivial rfl, hmore⟩,
      ⟨Value.wellFormed_of_parts_eq_nil trivial rfl, hless⟩, List.forall_mem_nil _⟩
  have hhidden : [(Value.null, less)].Sublist entries := by
    apply List.Sublist.cons_cons
    exact List.nil_sublist _
  have hplain : [(Value.boolean true, less)].Sublist entries := by
    apply List.Sublist.cons
    apply List.Sublist.cons
    exact List.Sublist.refl _
  constructor
  · exact hwf
  · constructor
    · intro now
      apply (contains_submap_iff hwf hhidden now).1.mpr
      intro text v w hv hw
      rcases exists_mem_of_shown hw with ⟨part, hpart, rfl⟩
      rw [List.mem_singleton.mp hpart] at hv hw
      cases hv
      cases hw
      decide
    · intro now
      apply (contains_submap_iff hwf hplain now).2
      intro entry hentry part hpart hdisplay
      rw [List.mem_singleton.mp hpart] at hdisplay
      simp only [entries, List.mem_cons, List.not_mem_nil, or_false] at hentry
      rcases hentry with rfl | rfl | rfl
      · exact absurd hdisplay (by decide)
      · exact absurd hdisplay (by decide)
      · exact List.mem_singleton_self _

/-- A key of null that is left out hides the string of its name. -/
theorem submap_not_contained :
    let kept : Value × Value := (.string "null", .boolean true)
    let entries : List (Value × Value) := [kept, (.null, .boolean false)]
    (Value.map entries).WellFormed ∧ [kept].Sublist entries ∧
      ∀ now, (Operator.map .contains).holds now (.map entries) (.map [kept]) = false := by
  intro kept entries
  have hsimple : ∀ v : Value, v.parts = [] → v.HasDistinctParts → v.WellFormed := by
    intro v hparts hdistinct
    exact Value.wellFormed_of_parts_eq_nil hdistinct hparts
  constructor
  · show (Value.mapOf entries).WellFormed
    apply Value.WellFormed.mapOf
    simp only [entries, kept, List.forall_mem_cons]
    exact ⟨⟨hsimple _ rfl trivial, hsimple _ rfl trivial⟩,
      ⟨hsimple _ rfl trivial, hsimple _ rfl trivial⟩, List.forall_mem_nil _⟩
  · constructor
    · apply List.Sublist.cons_cons
      exact List.nil_sublist _
    · intro now
      show (recordOf entries).contains (recordOf [kept]) = false
      decide

end RecordFilter
