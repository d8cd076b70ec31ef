import RecordFilter.Normalizer
import RecordFilter.Proofs.Value.Fold

/-!
# Folding equal values

Equal values stay equal when they are folded, and well-formed values stay well-formed.  Only
sets need an argument: items that fold to equal items become one, so sets may shrink, and two
equal sets that are stored in different orders keep different items.  But what one of them keeps
is found in what the other keeps, and no two items as the same, so both shrink to one size.

The main statement says this of all normalizers, whatever they remember, together with what is
known about folding twice.
-/

namespace RecordFilter

namespace Value

/-! ## Well-formed values -/

theorem WellFormed.folded {v : Value} (h : v.WellFormed) : v.folded.WellFormed := by
  induction v using induction_parts with
  | step v ih =>
      have hparts : ∀ part ∈ v.parts, part.folded.WellFormed := by
        intro part hpart
        exact ih part hpart (h.parts hpart)
      cases v with
      | string s =>
          rw [Value.folded]
          exact wellFormed_of_parts_eq_nil trivial rfl
      | array items =>
          rw [folded_array]
          constructor
          · trivial
          · exact List.forall_mem_map.mpr hparts
      | set items =>
          rw [folded_set]
          exact WellFormed.setOf (List.forall_mem_map.mpr hparts)
      | map entries =>
          rw [folded_map]
          constructor
          · exact List.pairwise_map.mpr h.distinct
          · intro part hpart
            rcases List.mem_append.mp hpart with hkey | hvalue
            · rw [List.map_map] at hkey
              exact h.parts (List.mem_append_left _ hkey)
            · rw [List.map_map] at hvalue
              rcases List.mem_map.mp hvalue with ⟨entry, hentry, rfl⟩
              exact hparts entry.2 (mem_parts_map_value hentry)
      | object fields =>
          rw [folded_object]
          constructor
          · trivial
          · intro part hpart
            rcases List.mem_map.mp hpart with ⟨folded, hfolded, rfl⟩
            rcases List.mem_map.mp hfolded with ⟨field, hfield, rfl⟩
            exact hparts field.2 (mem_parts_object hfield)
      | _ => exact h

/-! ## Sets -/

structure FoundFolded (items others : List Value) : Prop where
  left : ∀ item ∈ items, item.WellFormed
  right : ∀ other ∈ others, other.WellFormed
  found : ∀ item ∈ items, ∃ other ∈ others, (other.folded == item.folded) = true

theorem wellFormed_of_mem_distinct_folded {items : List Value}
    (h : ∀ item ∈ items, item.WellFormed) {kept : Value}
    (hkept : kept ∈ distinct (items.map folded)) : kept.WellFormed := by
  rcases List.mem_map.mp (mem_of_mem_distinct hkept) with ⟨item, hitem, rfl⟩
  exact (h item hitem).folded

namespace FoundFolded

variable {items others : List Value}

theorem kept (h : FoundFolded items others) :
    ∀ kept ∈ distinct (items.map folded), ∃ like ∈ distinct (others.map folded),
      (like == kept) = true := by
  intro kept hkept
  rcases List.mem_map.mp (mem_of_mem_distinct hkept) with ⟨item, hitem, rfl⟩
  rcases h.found item hitem with ⟨other, hother, hfolded⟩
  rcases exists_mem_distinct (List.mem_map_of_mem hother) with ⟨like, hlike, hsame⟩
  have hwf := wellFormed_of_mem_distinct_folded h.right hlike
  refine ⟨like, hlike, ?_⟩
  exact isEquivalenceOn_wellFormed.trans hwf (h.right other hother).folded
    (h.left item hitem).folded hsame hfolded

theorem length_le (h : FoundFolded items others) :
    (distinct (items.map folded)).length ≤ (distinct (others.map folded)).length := by
  apply length_le_of_found h.kept
  apply isEquivalenceOn_wellFormed.apart_of_set
  · intro kept hkept
    exact wellFormed_of_mem_distinct_folded h.left hkept
  · intro kept hkept
    exact wellFormed_of_mem_distinct_folded h.right hkept
  · exact hasDistinctParts_distinct (items.map folded)

end FoundFolded

/-! ## Equal values -/

theorem beq_folded {a b : Value} (ha : a.WellFormed) (hb : b.WellFormed) (h : (a == b) = true) :
    (a.folded == b.folded) = true := by
  have hsymm : ∀ {x y : Value}, x.WellFormed → y.WellFormed → (x == y) = true → (y == x) = true :=
    isEquivalenceOn_wellFormed.symm
  induction a using induction_parts generalizing b with
  | step a ih =>
      have hreverse := beq_iff_equalBy.mp (hsymm ha hb h)
      cases beq_iff_equalBy.mp h with
      | array hitems =>
          rw [folded_array, folded_array]
          refine beq_iff_equalBy.mpr (.array ?_)
          rw [List.forall₂_map_left_iff, List.forall₂_map_right_iff]
          refine forall₂_of_mem hitems ?_
          intro x hx y hy
          exact ih x hx (ha.parts hx) (hb.parts hy)
      | @set as bs hlength hfound =>
          have hthere : FoundFolded as bs := by
            refine ⟨fun x hx => ha.parts hx, fun y hy => hb.parts hy, ?_⟩
            intro x hx
            rcases hfound x hx with ⟨y, hy, hyx⟩
            have hx' : x.WellFormed := ha.parts hx
            have hy' : y.WellFormed := hb.parts hy
            refine ⟨y, hy, hsymm hx'.folded hy'.folded ?_⟩
            exact ih x hx hx' hy' (hsymm hy' hx' hyx)
          have hback : FoundFolded bs as := by
            refine ⟨hthere.right, hthere.left, ?_⟩
            cases hreverse with
            | set _ hfound' =>
                intro y hy
                rcases hfound' y hy with ⟨x, hx, hxy⟩
                exact ⟨x, hx, ih x hx (ha.parts hx) (hb.parts hy) hxy⟩
          rw [folded_set, folded_set]
          refine beq_iff_equalBy.mpr (.set ?_ hthere.kept)
          exact Nat.le_antisymm hthere.length_le hback.length_le
      | @map as bs hlength hfound =>
          rw [folded_map, folded_map]
          refine beq_iff_equalBy.mpr (.map ?_ ?_)
          · rw [List.length_map, List.length_map, hlength]
          · intro x hx
            rcases List.mem_map.mp hx with ⟨entry, hentry, rfl⟩
            rcases hfound entry hentry with ⟨other, hother, hkey, hvalue⟩
            refine ⟨_, List.mem_map_of_mem hother, hkey, ?_⟩
            exact ih _ (mem_parts_map_value hentry) (ha.parts (mem_parts_map_value hentry))
              (hb.parts (mem_parts_map_value hother)) hvalue
      | object hfields =>
          rw [folded_object, folded_object]
          refine beq_iff_equalBy.mpr (.object ?_)
          rw [List.forall₂_map_left_iff, List.forall₂_map_right_iff]
          refine forall₂_of_mem hfields ?_
          intro x hx y hy hxy
          refine ⟨hxy.1, ?_⟩
          exact ih _ (mem_parts_object hx) (ha.parts (mem_parts_object hx))
            (hb.parts (mem_parts_object hy)) hxy.2
      | string s => exact beq_refl _
      | _ => exact h

end Value

/--
What a normalizer makes of a value is left alone by every normalizer.  It is well-formed if the
value is, and equal to what any normalizer makes of an equal value, if both are well-formed.
-/
theorem normalizers_keep_equality (first second : Normalizer) :
    (∀ v : Value, (Normalizer.value (Normalizer.value v first).1 second).1 =
      (Normalizer.value v first).1) ∧
    (∀ v : Value, v.WellFormed → (Normalizer.value v first).1.WellFormed) ∧
    ∀ a b : Value, a.WellFormed → b.WellFormed → (a == b) = true →
      ((Normalizer.value a first).1 == (Normalizer.value b second).1) = true := by
  simp only [Normalizer.value_fst]
  refine ⟨Value.folded_folded, ?_, ?_⟩
  · intro v hv
    exact hv.folded
  · intro a b ha hb hab
    exact Value.beq_folded ha hb hab

theorem normalizers_keep_equality_of_spellings :
    let a : Value := .setOf [.string "A b", .string " a--B", .null]
    let b : Value := .setOf [.null, .string " a--B", .string "A b"]
    let first := (Normalizer.text "a-b" .remembering).2
    let second := Normalizer.forgetful
    a.WellFormed ∧ b.WellFormed ∧ (a == b) = true ∧
      (Normalizer.value a first).1 = .set [.string "a-b", .null] ∧
      (Normalizer.value b second).1 = .set [.null, .string "a-b"] ∧
      (Normalizer.value a first).1.WellFormed ∧
      ((Normalizer.value a first).1 == (Normalizer.value b second).1) = true := by
  intro a b first second
  have hstring : ∀ s : String, (Value.string s).WellFormed := by
    intro s
    exact Value.wellFormed_of_parts_eq_nil trivial rfl
  have hnull : Value.null.WellFormed := Value.wellFormed_of_parts_eq_nil trivial rfl
  have ha : a.WellFormed := by
    apply Value.WellFormed.setOf
    simp [hstring, hnull]
  have hb : b.WellFormed := by
    apply Value.WellFormed.setOf
    simp [hstring, hnull]
  have hab : (a == b) = true := by decide +kernel
  have hspaced : foldText "A b" = "a-b" := by decide +kernel
  have hdashed : foldText " a--B" = "a-b" := by decide +kernel
  rcases normalizers_keep_equality first second with ⟨-, hwf, hequal⟩
  refine ⟨ha, hb, hab, ?_, ?_, hwf a ha, hequal a b ha hb hab⟩
  · rw [Normalizer.value_fst]
    show Value.setOf [.string (foldText "A b"), .string (foldText " a--B"), .null] = _
    rw [hspaced, hdashed]
    rfl
  · rw [Normalizer.value_fst]
    show Value.setOf [.null, .string (foldText " a--B"), .string (foldText "A b")] = _
    rw [hspaced, hdashed]
    rfl

end RecordFilter
