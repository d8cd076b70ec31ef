import Mathlib
import RecordFilter.Proofs.Value.Equality
import RecordFilter.Value.Order

/-!
# The canonical order as a total preorder

The order compares kinds first and then, kind by kind, the contents from left to right.
What holds of the comparisons of the parts so carries over to the whole, and the laws go
up the values by induction on their parts.  They are proved for stored forms, where no
sorting is involved, and hold of all values because a value is compared by its canonical
form.

Sets and maps compare like sequences once their members are sorted by the order itself.

The main statement is that the order is a total preorder which identifies only what is
equal, and that sorting gives a permutation in ascending order.
-/

namespace RecordFilter

/-! ## Comparisons of three things -/

/--
The comparisons of a first with a second thing, the second with a third and the first
with the third fit together: equals can stand in for each other, and two comparisons that
agree are carried on.
-/
def Composes (ab bc ac : Ordering) : Prop :=
  (ab = .eq → ac = bc) ∧ (bc = .eq → ac = ab) ∧ (ab = bc → ac = ab)

instance (ab bc ac : Ordering) : Decidable (Composes ab bc ac) :=
  inferInstanceAs (Decidable (_ ∧ _ ∧ _))

namespace Composes

theorem of_transCmp {α : Type} (cmp : α → α → Ordering) [Std.TransCmp cmp] (a b c : α) :
    Composes (cmp a b) (cmp b c) (cmp a c) := by
  refine ⟨Std.TransCmp.congr_left, fun hbc => (Std.TransCmp.congr_right hbc).symm, ?_⟩
  intro h
  cases hab : cmp a b with
  | lt => exact Std.TransCmp.lt_trans hab (h.symm.trans hab)
  | eq => exact Std.TransCmp.eq_trans hab (h.symm.trans hab)
  | gt => exact Std.TransCmp.gt_trans hab (h.symm.trans hab)

theorem andThen : ∀ {ab bc ac ab' bc' ac' : Ordering}, Composes ab bc ac →
    (ab = .eq → bc = .eq → Composes ab' bc' ac') →
    Composes (ab.then ab') (bc.then bc') (ac.then ac') := by
  decide

theorem isLE : ∀ {ab bc ac : Ordering}, Composes ab bc ac → ab.isLE → bc.isLE → ac.isLE := by
  decide

theorem compareLex {α : Type} {cmp : α → α → Ordering} {as : List α}
    (h : ∀ a ∈ as, ∀ b c, Composes (cmp a b) (cmp b c) (cmp a c)) (bs cs : List α) :
    Composes (as.compareLex cmp bs) (bs.compareLex cmp cs) (as.compareLex cmp cs) := by
  induction as generalizing bs cs with
  | nil =>
      cases bs <;> cases cs <;> simp [Composes, List.compareLex]
  | cons a as ih =>
      cases bs with
      | nil => cases cs <;> simp [Composes, List.compareLex]
      | cons b bs =>
          cases cs with
          | nil => exact ⟨fun _ => rfl, nofun, Eq.symm⟩
          | cons c cs =>
              simp only [List.compareLex_cons_cons]
              refine (h a List.mem_cons_self b c).andThen fun _ _ => ih ?_ bs cs
              intro x hx
              exact h x (List.mem_cons_of_mem a hx)

end Composes

theorem compareLex_swap {α : Type} {cmp : α → α → Ordering} {as : List α}
    (h : ∀ a ∈ as, ∀ b, cmp b a = (cmp a b).swap) (bs : List α) :
    bs.compareLex cmp as = (as.compareLex cmp bs).swap := by
  induction as generalizing bs with
  | nil => cases bs <;> rfl
  | cons a as ih =>
      cases bs with
      | nil => rfl
      | cons b bs =>
          rw [List.compareLex_cons_cons, List.compareLex_cons_cons, Ordering.swap_then,
            h a List.mem_cons_self b, ih fun x hx => h x (List.mem_cons_of_mem a hx)]

theorem forall₂_of_compareLex_eq {α : Type} {cmp : α → α → Ordering} {as bs : List α}
    (h : as.compareLex cmp bs = .eq) : List.Forall₂ (fun a b => cmp a b = .eq) as bs := by
  induction as generalizing bs with
  | nil =>
      cases bs with
      | nil => exact .nil
      | cons b bs => cases h
  | cons a as ih =>
      cases bs with
      | nil => cases h
      | cons b bs =>
          rw [List.compareLex_cons_cons, Ordering.then_eq_eq] at h
          exact .cons h.1 (ih h.2)

theorem compareLex_eq_of_forall₂ {α : Type} {cmp : α → α → Ordering} {as bs : List α}
    (h : List.Forall₂ (fun a b => cmp a b = .eq) as bs) : as.compareLex cmp bs = .eq := by
  induction h with
  | nil => rfl
  | cons hab _ ih => rw [List.compareLex_cons_cons, hab, ih, Ordering.then_eq]

theorem pairwise_mergeSort {α : Type} (cmp : α → α → Ordering) [Std.TransCmp cmp]
    (items : List α) :
    (items.mergeSort fun a b => cmp a b != .gt).Pairwise fun a b => (cmp a b).isLE = true := by
  have hle : ∀ a b : α, (cmp a b != .gt) = (cmp a b).isLE := by
    intro a b
    exact Ordering.isLE_eq_not_beq_gt.symm
  simp only [hle]
  refine List.pairwise_mergeSort (fun a b c => Std.TransCmp.isLE_trans) (fun a b => ?_) items
  cases hab : cmp a b with
  | gt => simp [Std.OrientedCmp.lt_of_gt hab]
  | _ => rfl

namespace Number

instance : Std.TransCmp compare where
  eq_swap := Std.OrientedOrd.eq_swap
  isLE_trans := Std.TransOrd.isLE_trans

theorem same_of_compare_eq {a b : Number} (h : a.compare b = .eq) : a.same b = true := by
  have hrank : a.rank = b.rank := Std.LawfulEqOrd.eq_of_compare h
  unfold rank at hrank
  have hparts : a.isNegative = b.isNegative ∧ a.magnitude = b.magnitude := by
    cases ha : a.isNegative <;> cases hb : b.isNegative <;>
      simp only [ha, hb, if_true, if_false, Bool.false_eq_true] at hrank <;>
      simp only [true_and, reduceCtorEq, false_and] <;> omega
  refine same_iff.mpr ⟨?_, fun _ => ?_⟩
  · rw [isNaN, isNaN, hparts.2]
  · rw [position, position, hparts.1, hparts.2]

end Number

namespace Instant

instance : Std.TransCmp compare where
  eq_swap {a b} := by
    rw [compare, compare, Ordering.swap_then, ← Std.OrientedOrd.eq_swap,
      ← Std.OrientedOrd.eq_swap]
  isLE_trans {a b c} := by
    have hsecond := Composes.of_transCmp Ord.compare a.second b.second c.second
    exact (hsecond.andThen fun _ _ => .of_transCmp Ord.compare a.nanos b.nanos c.nanos).isLE

theorem eq_of_compare_eq {a b : Instant} (h : a.compare b = .eq) : a = b := by
  rcases a with ⟨second, nanos⟩
  rcases b with ⟨second', nanos'⟩
  rw [compare, Ordering.then_eq_eq] at h
  have hsecond : second = second' := Std.LawfulEqOrd.eq_of_compare h.1
  have hnanos : nanos = nanos' := Std.LawfulEqOrd.eq_of_compare h.2
  rw [hsecond, hnanos]

end Instant

namespace Value

/-! ## Stored forms -/

theorem compareItems_eq (as bs : List Value) :
    compareItems as bs = as.compareLex compareStored bs := by
  induction as generalizing bs with
  | nil => cases bs <;> rfl
  | cons a as ih =>
      cases bs with
      | nil => rfl
      | cons b bs => rw [compareItems, List.compareLex_cons_cons, ih]

theorem compareEntry_eq (a b : Value × Value) :
    compareEntry a b = (compareStored a.1 b.1).then (compareStored a.2 b.2) := by
  rcases a with ⟨key, value⟩
  rfl

theorem compareEntries_eq (as bs : List (Value × Value)) :
    compareEntries as bs = as.compareLex compareEntry bs := by
  induction as generalizing bs with
  | nil => cases bs <;> rfl
  | cons a as ih =>
      cases bs with
      | nil => rfl
      | cons b bs => rw [compareEntries, List.compareLex_cons_cons, ih]

theorem compareField_eq (a b : String × Value) :
    compareField a b = (Ord.compare a.1 b.1).then (compareStored a.2 b.2) := by
  rcases a with ⟨name, value⟩
  rfl

theorem compareFields_eq (as bs : List (String × Value)) :
    compareFields as bs = as.compareLex compareField bs := by
  induction as generalizing bs with
  | nil => cases bs <;> rfl
  | cons a as ih =>
      cases bs with
      | nil => rfl
      | cons b bs => rw [compareFields, List.compareLex_cons_cons, ih]

theorem sameKind_of_rank_eq {a b : Value} (h : a.rank = b.rank) : SameKind a b := by
  cases a <;> cases b <;> first | constructor | cases h

theorem compareStored_eq_then (a b : Value) :
    compareStored a b = (Ord.compare a.rank b.rank).then (compareStored a b) := by
  cases a <;> cases b <;> rfl

theorem compareStored_of_rank_ne {a b : Value} (h : a.rank ≠ b.rank) :
    compareStored a b = Ord.compare a.rank b.rank := by
  cases a <;> cases b <;> first | rfl | exact absurd rfl h

theorem compareStored_swap (a b : Value) : compareStored b a = (compareStored a b).swap := by
  induction a using induction_parts generalizing b with
  | step a ih =>
      by_cases hrank : a.rank = b.rank
      · cases sameKind_of_rank_eq hrank with
        | undefined => rfl
        | null => rfl
        | boolean x y => exact Std.OrientedOrd.eq_swap
        | number x y =>
            show y.compare x = (x.compare y).swap
            exact Std.OrientedCmp.eq_swap
        | string x y => exact Std.OrientedOrd.eq_swap
        | date x y =>
            show y.compare x = (x.compare y).swap
            exact Std.OrientedCmp.eq_swap
        | regex x y => exact Std.OrientedOrd.eq_swap
        | array as bs =>
            simp only [compareStored, compareItems_eq]
            exact compareLex_swap ih bs
        | set as bs =>
            simp only [compareStored, compareItems_eq]
            exact compareLex_swap ih bs
        | map as bs =>
            simp only [compareStored, compareEntries_eq]
            refine compareLex_swap (fun x hx y => ?_) bs
            rw [compareEntry_eq, compareEntry_eq, Ordering.swap_then,
              ih _ (mem_parts_map_key hx), ih _ (mem_parts_map_value hx)]
        | object as bs =>
            simp only [compareStored, compareFields_eq]
            refine compareLex_swap (fun x hx y => ?_) bs
            rw [compareField_eq, compareField_eq, Ordering.swap_then,
              ih _ (mem_parts_object hx), Std.OrientedOrd.eq_swap]
      · rw [compareStored_of_rank_ne hrank, compareStored_of_rank_ne (Ne.symm hrank)]
        exact Std.OrientedOrd.eq_swap

theorem composes_of_rank {a b c : Value}
    (h : a.rank = b.rank → b.rank = c.rank →
      Composes (compareStored a b) (compareStored b c) (compareStored a c)) :
    Composes (compareStored a b) (compareStored b c) (compareStored a c) := by
  rw [compareStored_eq_then a b, compareStored_eq_then b c, compareStored_eq_then a c]
  refine (Composes.of_transCmp Ord.compare a.rank b.rank c.rank).andThen fun hab hbc => ?_
  exact h (Std.LawfulEqOrd.eq_of_compare hab) (Std.LawfulEqOrd.eq_of_compare hbc)

theorem composes_compareStored (a b c : Value) :
    Composes (compareStored a b) (compareStored b c) (compareStored a c) := by
  induction a using induction_parts generalizing b c with
  | step a ih =>
      refine composes_of_rank fun hab hbc => ?_
      cases sameKind_of_rank_eq hab with
      | undefined =>
          cases sameKind_of_rank_eq hbc with
          | undefined => decide
      | null =>
          cases sameKind_of_rank_eq hbc with
          | null => decide
      | boolean x y =>
          cases sameKind_of_rank_eq hbc with
          | boolean _ z => exact .of_transCmp Ord.compare x y z
      | number x y =>
          cases sameKind_of_rank_eq hbc with
          | number _ z => exact .of_transCmp Number.compare x y z
      | string x y =>
          cases sameKind_of_rank_eq hbc with
          | string _ z => exact .of_transCmp Ord.compare x y z
      | date x y =>
          cases sameKind_of_rank_eq hbc with
          | date _ z => exact .of_transCmp Instant.compare x y z
      | regex x y =>
          cases sameKind_of_rank_eq hbc with
          | regex _ z => exact .of_transCmp Ord.compare x.source y.source z.source
      | array as bs =>
          cases sameKind_of_rank_eq hbc with
          | array _ cs =>
              simp only [compareStored, compareItems_eq]
              exact Composes.compareLex ih bs cs
      | set as bs =>
          cases sameKind_of_rank_eq hbc with
          | set _ cs =>
              simp only [compareStored, compareItems_eq]
              exact Composes.compareLex ih bs cs
      | map as bs =>
          cases sameKind_of_rank_eq hbc with
          | map _ cs =>
              simp only [compareStored, compareEntries_eq]
              refine Composes.compareLex (fun x hx y z => ?_) bs cs
              simp only [compareEntry_eq]
              refine (ih _ (mem_parts_map_key hx) y.1 z.1).andThen fun _ _ => ?_
              exact ih _ (mem_parts_map_value hx) y.2 z.2
      | object as bs =>
          cases sameKind_of_rank_eq hbc with
          | object _ cs =>
              simp only [compareStored, compareFields_eq]
              refine Composes.compareLex (fun x hx y z => ?_) bs cs
              simp only [compareField_eq]
              refine (Composes.of_transCmp Ord.compare x.1 y.1 z.1).andThen fun _ _ => ?_
              exact ih _ (mem_parts_object hx) y.2 z.2

/-! ## Canonical forms -/

theorem canonicalItems_eq_map (items : List Value) :
    canonicalItems items = items.map canonical := by
  induction items with
  | nil => rfl
  | cons item rest ih => rw [canonicalItems, ih, List.map_cons]

theorem canonicalEntries_eq_map (entries : List (Value × Value)) :
    canonicalEntries entries = entries.map canonicalEntry := by
  induction entries with
  | nil => rfl
  | cons entry rest ih => rw [canonicalEntries, ih, List.map_cons]

theorem canonicalFields_eq_map (fields : List (String × Value)) :
    canonicalFields fields = fields.map canonicalField := by
  induction fields with
  | nil => rfl
  | cons field rest ih => rw [canonicalFields, ih, List.map_cons]

theorem compareLex_map {α β : Type} {cmp : β → β → Ordering} (f : α → β) (as bs : List α) :
    (as.map f).compareLex cmp (bs.map f) = as.compareLex (fun a b => cmp (f a) (f b)) bs := by
  induction as generalizing bs with
  | nil => cases bs <;> rfl
  | cons a as ih =>
      cases bs with
      | nil => rfl
      | cons b bs =>
          rw [List.map_cons, List.map_cons, List.compareLex_cons_cons,
            List.compareLex_cons_cons, ih]

def compareByKey (a b : Value × Value) : Ordering :=
  (a.1.compare b.1).then (a.2.compare b.2)

def sortedByKey (entries : List (Value × Value)) : List (Value × Value) :=
  entries.mergeSort fun a b => compareByKey a b != .gt

theorem sortStored_canonicalItems (items : List Value) :
    sortStored (canonicalItems items) = (sorted items).map canonical := by
  rw [canonicalItems_eq_map]
  refine (List.map_mergeSort fun a _ b _ => ?_).symm
  rfl

theorem compareEntry_canonicalEntry (a b : Value × Value) :
    compareEntry (canonicalEntry a) (canonicalEntry b) = compareByKey a b := by
  rcases a with ⟨key, value⟩
  rcases b with ⟨key', value'⟩
  rfl

theorem sortEntries_canonicalEntries (entries : List (Value × Value)) :
    sortEntries (canonicalEntries entries) = (sortedByKey entries).map canonicalEntry := by
  rw [canonicalEntries_eq_map]
  refine (List.map_mergeSort fun a _ b _ => ?_).symm
  rw [compareEntry_canonicalEntry]

theorem compareField_canonicalField (a b : String × Value) :
    compareField (canonicalField a) (canonicalField b) =
      (Ord.compare a.1 b.1).then (a.2.compare b.2) := by
  rcases a with ⟨name, value⟩
  rcases b with ⟨name', value'⟩
  rfl

theorem compare_array (as bs : List Value) :
    compare (.array as) (.array bs) = as.compareLex compare bs := by
  rw [compare, canonical, canonical, compareStored, compareItems_eq, canonicalItems_eq_map,
    canonicalItems_eq_map, compareLex_map]
  rfl

theorem compare_set (as bs : List Value) :
    compare (.set as) (.set bs) = (sorted as).compareLex compare (sorted bs) := by
  rw [compare, canonical, canonical, compareStored, compareItems_eq, sortStored_canonicalItems,
    sortStored_canonicalItems, compareLex_map]
  rfl

theorem compare_map (as bs : List (Value × Value)) :
    compare (.map as) (.map bs) = (sortedByKey as).compareLex compareByKey (sortedByKey bs) := by
  rw [compare, canonical, canonical, compareStored, compareEntries_eq,
    sortEntries_canonicalEntries, sortEntries_canonicalEntries, compareLex_map]
  simp only [compareEntry_canonicalEntry]

theorem compare_object (as bs : List (String × Value)) :
    compare (.object as) (.object bs) =
      as.compareLex (fun a b => (Ord.compare a.1 b.1).then (a.2.compare b.2)) bs := by
  rw [compare, canonical, canonical, compareStored, compareFields_eq, canonicalFields_eq_map,
    canonicalFields_eq_map, compareLex_map]
  simp only [compareField_canonicalField]

/-! ## The order -/

instance : Std.TransCmp compare where
  eq_swap {a b} := compareStored_swap b.canonical a.canonical
  isLE_trans {a b c} := (composes_compareStored a.canonical b.canonical c.canonical).isLE

instance : Std.TransCmp compareByKey where
  eq_swap {a b} := by
    rw [compareByKey, compareByKey, Ordering.swap_then, ← Std.OrientedCmp.eq_swap,
      ← Std.OrientedCmp.eq_swap]
  isLE_trans {a b c} := by
    have hkey := Composes.of_transCmp Value.compare a.1 b.1 c.1
    exact (hkey.andThen fun _ _ => .of_transCmp Value.compare a.2 b.2 c.2).isLE

theorem rank_canonical (v : Value) : v.canonical.rank = v.rank := by
  cases v <;> rfl

theorem rank_eq_of_compare_eq {a b : Value} (h : a.compare b = .eq) : a.rank = b.rank := by
  rw [compare, compareStored_eq_then, Ordering.then_eq_eq, rank_canonical, rank_canonical] at h
  exact Std.LawfulEqOrd.eq_of_compare h.1

theorem equalBy_of_compare_eq {a b : Value} (h : a.compare b = .eq) :
    EqualBy (fun x y => x.compare y = .eq) a b := by
  cases sameKind_of_rank_eq (rank_eq_of_compare_eq h) with
  | undefined => exact .undefined
  | null => exact .null
  | boolean x y =>
      have hxy : x = y := Std.LawfulEqOrd.eq_of_compare h
      rw [hxy]
      exact .boolean y
  | number x y => exact .number (Number.same_of_compare_eq h)
  | string x y =>
      have hxy : x = y := Std.LawfulEqOrd.eq_of_compare h
      rw [hxy]
      exact .string y
  | date x y =>
      have hxy : x = y := Instant.eq_of_compare_eq h
      rw [hxy]
      exact .date y
  | regex x y =>
      have hxy : x = y := Pattern.ext_source (Std.LawfulEqOrd.eq_of_compare h)
      rw [hxy]
      exact .regex y
  | array as bs =>
      rw [compare_array] at h
      exact .array (forall₂_of_compareLex_eq h)
  | set as bs =>
      rw [compare_set] at h
      have hitems := forall₂_of_compareLex_eq h
      have hlength := hitems.length_eq
      rw [sorted, sorted, List.length_mergeSort, List.length_mergeSort] at hlength
      refine .set hlength fun x hx => ?_
      rcases exists_mem_of_forall₂ hitems (List.mem_mergeSort.mpr hx) with ⟨y, hy, hxy⟩
      exact ⟨y, List.mem_mergeSort.mp hy, Std.OrientedCmp.eq_symm hxy⟩
  | map as bs =>
      rw [compare_map] at h
      have hentries := forall₂_of_compareLex_eq h
      have hlength := hentries.length_eq
      rw [sortedByKey, sortedByKey, List.length_mergeSort, List.length_mergeSort] at hlength
      refine .map hlength fun x hx => ?_
      rcases exists_mem_of_forall₂ hentries (List.mem_mergeSort.mpr hx) with ⟨y, hy, hxy⟩
      exact ⟨y, List.mem_mergeSort.mp hy, Ordering.then_eq_eq.mp hxy⟩
  | object as bs =>
      rw [compare_object] at h
      refine .object ((forall₂_of_compareLex_eq h).imp fun x y hxy => ?_)
      have hparts := Ordering.then_eq_eq.mp hxy
      exact ⟨Std.LawfulEqOrd.eq_of_compare hparts.1, hparts.2⟩

theorem EqualBy.imp {R S : Value → Value → Prop} {a b : Value} (h : EqualBy R a b)
    (himp : ∀ x ∈ a.parts, ∀ y ∈ b.parts, (R x y → S x y) ∧ (R y x → S y x)) : EqualBy S a b := by
  cases h with
  | undefined => exact .undefined
  | null => exact .null
  | boolean x => exact .boolean x
  | number hsame => exact .number hsame
  | string x => exact .string x
  | date x => exact .date x
  | regex x => exact .regex x
  | array hitems => exact .array (forall₂_of_mem hitems fun x hx y hy => (himp x hx y hy).1)
  | set hlength hall =>
      refine .set hlength fun x hx => ?_
      rcases hall x hx with ⟨y, hy, hyx⟩
      exact ⟨y, hy, (himp x hx y hy).2 hyx⟩
  | map hlength hall =>
      refine .map hlength fun x hx => ?_
      rcases hall x hx with ⟨y, hy, hkey, hvalue⟩
      refine ⟨y, hy, ?_, ?_⟩
      · exact (himp _ (mem_parts_map_key hx) _ (mem_parts_map_key hy)).1 hkey
      · exact (himp _ (mem_parts_map_value hx) _ (mem_parts_map_value hy)).1 hvalue
  | object hfields =>
      refine .object (forall₂_of_mem hfields fun x hx y hy hxy => ⟨hxy.1, ?_⟩)
      exact (himp _ (mem_parts_object hx) _ (mem_parts_object hy)).1 hxy.2

/-- What the order does not tell apart is equal, whichever side is asked. -/
theorem beq_of_compare_eq (a b : Value) :
    (a.compare b = .eq → (a == b) = true) ∧ (b.compare a = .eq → (b == a) = true) := by
  induction a using induction_parts generalizing b with
  | step a ih =>
      constructor
      · intro h
        refine beq_iff_equalBy.mpr ((equalBy_of_compare_eq h).imp fun x hx y _ => ?_)
        exact ih x hx y
      · intro h
        refine beq_iff_equalBy.mpr ((equalBy_of_compare_eq h).imp fun y _ x hx => ?_)
        exact (ih x hx y).symm

/-! ## Sorting -/

theorem pairwise_sorted (items : List Value) :
    (sorted items).Pairwise fun a b => (a.compare b).isLE = true :=
  pairwise_mergeSort compare items

/--
The order is total, transitive and tells apart whatever is not equal; sorting by it
keeps all items and puts them in ascending order.
-/
theorem compare_preorder (a b c : Value) (items : List Value) :
    b.compare a = (a.compare b).swap ∧
      ((a.compare b).isLE = true → (b.compare c).isLE = true → (a.compare c).isLE = true) ∧
      (a.compare b = .eq → (a == b) = true) ∧
      (sorted items).Perm items ∧
      (sorted items).Pairwise fun x y => (x.compare y).isLE = true := by
  refine ⟨Std.OrientedCmp.eq_swap, Std.TransCmp.isLE_trans, ?_, ?_, ?_⟩
  · exact (beq_of_compare_eq a b).1
  · exact List.mergeSort_perm items _
  · exact pairwise_sorted items

theorem compare_preorder_of_stored_orders :
    let a : Value := .set [.number .nan, .boolean true]
    let b : Value := .set [.boolean true, .number .nan]
    let c : Value := .map [(.null, .number .zero)]
    (a.compare b).isLE = true ∧ (b.compare c).isLE = true ∧ a.compare b = .eq ∧
      (a.compare c).isLE = true ∧ (a == b) = true := by
  intro a b c
  have hab : a.compare b = .eq := by cbv
  have hbc : (b.compare c).isLE = true := by decide
  have hle : (a.compare b).isLE = true := Ordering.isLE_of_eq_eq hab
  rcases compare_preorder a b c [] with ⟨_, htrans, hequal, _⟩
  exact ⟨hle, hbc, hab, htrans hle hbc, hequal hab⟩

end Value
end RecordFilter
