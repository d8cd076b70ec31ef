import RecordFilter.Proofs.Value.Order

/-!
# Members in ascending order

Two lists may have the same members without having them in one order, and the same may be
meant up to a relation that identifies some members.  Sorting such lists gives lists that
agree place by place, provided that the order keeps apart what the relation does not identify.

For values the relation is equality.  It identifies the two zeros, which the order tells apart,
and that is all there is between the two apart from the many words of a NaN: the main statement
is that equal values are not told apart by the order if none of their numbers is a minus zero
and if there is one word only for NaN.
-/

namespace RecordFilter

variable {α : Type}

/-! ## Relations that identify -/

structure Identifies (R : α → α → Bool) (P : α → Prop) : Prop where
  refl : ∀ {a}, P a → R a a = true
  symm : ∀ {a b}, P a → P b → R a b = true → R b a = true
  trans : ∀ {a b c}, P a → P b → P c → R a b = true → R b c = true → R a c = true

namespace Identifies

variable {R : α → α → Bool} {P : α → Prop} (h : Identifies R P)
include h

theorem eq_of_related {z a b : α} (hz : P z) (ha : P a) (hb : P b) (hab : R a b = true) :
    R z a = R z b := by
  rw [Bool.eq_iff_iff]
  constructor
  · intro hza
    exact h.trans hz ha hb hza hab
  · intro hzb
    exact h.trans hz hb ha hzb (h.symm ha hb hab)

theorem countP_eq_of_forall₂ {z : α} (hz : P z) {as bs : List α} (ha : ∀ a ∈ as, P a)
    (hb : ∀ b ∈ bs, P b) (hrelated : List.Forall₂ (fun a b => R a b = true) as bs) :
    as.countP (R z) = bs.countP (R z) := by
  induction hrelated with
  | nil => rfl
  | cons hab _ ih =>
      rw [List.forall_mem_cons] at ha hb
      rw [List.countP_cons, List.countP_cons, ih ha.2 hb.2,
        h.eq_of_related hz ha.1 hb.1 hab]

end Identifies

theorem identifies_compare (cmp : α → α → Ordering) [Std.TransCmp cmp] :
    Identifies (fun a b => cmp a b == .eq) fun _ => True where
  refl _ := beq_iff_eq.mpr Std.ReflCmp.compare_self
  symm _ _ h := beq_iff_eq.mpr (Std.OrientedCmp.eq_symm (beq_iff_eq.mp h))
  trans _ _ _ hab hbc :=
    beq_iff_eq.mpr (Std.TransCmp.eq_trans (beq_iff_eq.mp hab) (beq_iff_eq.mp hbc))

/-! ## The same members -/

def Rearranges (R : α → α → Bool) (as bs : List α) : Prop :=
  ∃ cs : List α, cs.Perm bs ∧ List.Forall₂ (fun a c => R a c = true) as cs

theorem Rearranges.perm {R : α → α → Bool} {as as' bs bs' : List α} (h : Rearranges R as bs)
    (ha : as'.Perm as) (hb : bs.Perm bs') : Rearranges R as' bs' := by
  rcases h with ⟨cs, hcs, hrelated⟩
  have hcomp : Relation.Comp List.Perm (List.Forall₂ fun a c => R a c = true) as' cs :=
    ⟨as, ha, hrelated⟩
  rw [← List.forall₂_comp_perm_eq_perm_comp_forall₂] at hcomp
  rcases hcomp with ⟨ds, hds, hperm⟩
  exact ⟨ds, (hperm.trans hcs).trans hb, hds⟩

theorem Rearranges.countP_eq {R : α → α → Bool} {P : α → Prop} (hR : Identifies R P)
    {as bs : List α} (h : Rearranges R as bs) (ha : ∀ a ∈ as, P a) (hb : ∀ b ∈ bs, P b) {z : α}
    (hz : P z) : as.countP (R z) = bs.countP (R z) := by
  rcases h with ⟨cs, hperm, hrelated⟩
  have hc : ∀ c ∈ cs, P c := fun c hc => hb c (hperm.mem_iff.mp hc)
  rw [hR.countP_eq_of_forall₂ hz ha hc hrelated, hperm.countP_eq]

/--
Lists of one length have the same members if every member of the first is found in the second
one, and no two of them as the same.
-/
theorem rearranges_of_found {R : α → α → Bool} {as bs : List α}
    (hlength : as.length = bs.length) (hfound : ∀ a ∈ as, ∃ b ∈ bs, R a b = true)
    (hapart : as.Pairwise fun a a' => ∀ b ∈ bs, R a b = true → ¬ R a' b = true) :
    Rearranges R as bs := by
  rcases Value.exists_partners hfound hapart with ⟨partners, hsub, hrelated⟩
  rw [hrelated.length_eq] at hlength
  exact ⟨partners, hsub.perm_of_length_le (Nat.le_of_eq hlength.symm), hrelated⟩

/-! ## Lists in order -/

section Ordered

variable (cmp : α → α → Ordering)

def InOrder (as : List α) : Prop :=
  as.Pairwise fun a b => (cmp a b).isLE = true

/-- The members that the relation does not identify are in one order in both lists. -/
def KeepsApart (R : α → α → Bool) (as bs : List α) : Prop :=
  ∀ a ∈ as, ∀ a' ∈ as, cmp a a' = .lt → R a a' = false →
    ∀ b ∈ bs, ∀ b' ∈ bs, R a b = true → R a' b' = true → cmp b b' = .lt

variable {cmp}

theorem KeepsApart.of_perm {R : α → α → Bool} {as as' bs bs' : List α}
    (h : KeepsApart cmp R as bs) (ha : as'.Perm as) (hb : bs'.Perm bs) :
    KeepsApart cmp R as' bs' := by
  intro a ha₁ a' ha₂ hlt hne b hb₁ b' hb₂
  exact h a (ha.mem_iff.mp ha₁) a' (ha.mem_iff.mp ha₂) hlt hne b (hb.mem_iff.mp hb₁) b'
    (hb.mem_iff.mp hb₂)

structure Parallel (cmp : α → α → Ordering) (R : α → α → Bool) (P : α → Prop)
    (as bs : List α) : Prop where
  left : ∀ a ∈ as, P a
  right : ∀ b ∈ bs, P b
  related : ∀ a ∈ as, ∀ a' ∈ as, cmp a a' = .eq → R a a' = true
  leftOrder : InOrder cmp as
  rightOrder : InOrder cmp bs
  apart : KeepsApart cmp R as bs
  count : ∀ z, P z → as.countP (R z) = bs.countP (R z)

namespace Parallel

variable {R : α → α → Bool} {P : α → Prop} (hR : Identifies R P) {a b : α} {as bs : List α}
include hR

theorem exists_partner_right (h : Parallel cmp R P as bs) (ha : a ∈ as) :
    ∃ b ∈ bs, R a b = true := by
  have hPa := h.left a ha
  rw [← List.countP_pos_iff, ← h.count a hPa, List.countP_pos_iff]
  exact ⟨a, ha, hR.refl hPa⟩

theorem exists_partner_left (h : Parallel cmp R P as bs) (hb : b ∈ bs) :
    ∃ a ∈ as, R a b = true := by
  have hPb := h.right b hb
  have hfound : ∃ a ∈ as, R b a = true := by
    rw [← List.countP_pos_iff, h.count b hPb, List.countP_pos_iff]
    exact ⟨b, hb, hR.refl hPb⟩
  rcases hfound with ⟨a, ha, hba⟩
  exact ⟨a, ha, hR.symm hPb (h.left a ha) hba⟩

end Parallel

variable [Std.TransCmp cmp]

theorem keepsApart_compare (as bs : List α) :
    KeepsApart cmp (fun a b => cmp a b == .eq) as bs := by
  intro a _ a' _ hlt _ b _ b' _ hab hab'
  have hba' : cmp b a' = .lt := by
    rw [← Std.TransCmp.congr_left (beq_iff_eq.mp hab)]
    exact hlt
  rw [← Std.TransCmp.congr_right (beq_iff_eq.mp hab')]
  exact hba'

namespace Parallel

variable {R : α → α → Bool} {P : α → Prop} (hR : Identifies R P) {a b : α} {as bs : List α}
include hR

theorem head (h : Parallel cmp R P (a :: as) (b :: bs)) : R a b = true := by
  rcases h.exists_partner_right hR List.mem_cons_self with ⟨partner, hpartner, haPartner⟩
  rcases h.exists_partner_left hR List.mem_cons_self with ⟨other, hother, hotherb⟩
  have hPa := h.left a List.mem_cons_self
  have hPb := h.right b List.mem_cons_self
  cases haOther : R a other with
  | true => exact hR.trans hPa (h.left other hother) hPb haOther hotherb
  | false =>
      have hlt : cmp a other = .lt := by
        rcases List.mem_cons.mp hother with rfl | hlater
        · rw [hR.refl hPa] at haOther
          cases haOther
        · have hle := (List.pairwise_cons.mp h.leftOrder).1 other hlater
          rcases Ordering.isLE_iff_eq_lt_or_eq_eq.mp hle with hlt | heq
          · exact hlt
          · rw [h.related a List.mem_cons_self other hother heq] at haOther
            cases haOther
      have hbefore : cmp partner b = .lt :=
        h.apart a List.mem_cons_self other hother hlt haOther partner hpartner b
          List.mem_cons_self haPartner hotherb
      rcases List.mem_cons.mp hpartner with rfl | hlater
      · exact haPartner
      · have hle := (List.pairwise_cons.mp h.rightOrder).1 partner hlater
        rw [Std.OrientedCmp.gt_of_lt hbefore] at hle
        cases hle

theorem tail (h : Parallel cmp R P (a :: as) (b :: bs)) : Parallel cmp R P as bs := by
  have hab := h.head hR
  have hleft := List.forall_mem_cons.mp h.left
  have hright := List.forall_mem_cons.mp h.right
  constructor
  · exact hleft.2
  · exact hright.2
  · intro x hx x' hx'
    exact h.related x (List.mem_cons_of_mem a hx) x' (List.mem_cons_of_mem a hx')
  · exact (List.pairwise_cons.mp h.leftOrder).2
  · exact (List.pairwise_cons.mp h.rightOrder).2
  · intro x hx x' hx' hlt hne y hy y' hy'
    exact h.apart x (List.mem_cons_of_mem a hx) x' (List.mem_cons_of_mem a hx') hlt hne
      y (List.mem_cons_of_mem b hy) y' (List.mem_cons_of_mem b hy')
  · intro z hz
    have hall := h.count z hz
    rw [List.countP_cons, List.countP_cons, hR.eq_of_related hz hleft.1 hright.1 hab] at hall
    exact Nat.add_right_cancel hall

theorem forall₂ (h : Parallel cmp R P as bs) :
    List.Forall₂ (fun a b => R a b = true) as bs := by
  induction as generalizing bs with
  | nil =>
      cases bs with
      | nil => exact .nil
      | cons b bs =>
          rcases h.exists_partner_left hR List.mem_cons_self with ⟨a, ha, _⟩
          cases ha
  | cons a as ih =>
      cases bs with
      | nil =>
          rcases h.exists_partner_right hR List.mem_cons_self with ⟨b, hb, _⟩
          cases hb
      | cons b bs => exact .cons (h.head hR) (ih (h.tail hR))

end Parallel

/--
Sorting gives lists that agree place by place if they have the same members and the order
keeps apart what is not identified.
-/
theorem forall₂_mergeSort {R : α → α → Bool} {P : α → Prop} (hR : Identifies R P)
    {as bs : List α} (ha : ∀ a ∈ as, P a) (hb : ∀ b ∈ bs, P b)
    (hrelated : ∀ a ∈ as, ∀ a' ∈ as, cmp a a' = .eq → R a a' = true)
    (hapart : KeepsApart cmp R as bs) (h : Rearranges R as bs) :
    List.Forall₂ (fun a b => R a b = true) (as.mergeSort fun a b => cmp a b != .gt)
      (bs.mergeSort fun a b => cmp a b != .gt) := by
  have has := List.mergeSort_perm as fun a b => cmp a b != .gt
  have hbs := List.mergeSort_perm bs fun a b => cmp a b != .gt
  have hparallel : Parallel cmp R P (as.mergeSort fun a b => cmp a b != .gt)
      (bs.mergeSort fun a b => cmp a b != .gt) := by
    constructor
    · exact fun a hmem => ha a (has.mem_iff.mp hmem)
    · exact fun b hmem => hb b (hbs.mem_iff.mp hmem)
    · intro a hmem a' hmem'
      exact hrelated a (has.mem_iff.mp hmem) a' (has.mem_iff.mp hmem')
    · exact pairwise_mergeSort cmp as
    · exact pairwise_mergeSort cmp bs
    · exact hapart.of_perm has hbs
    · intro z hz
      rw [has.countP_eq, hbs.countP_eq]
      exact h.countP_eq hR ha hb hz
  exact hparallel.forall₂ hR

end Ordered

/--
Lists of one length have no difference once they are sorted if each member of the first has
its like in the second one, and no two of them are alike.
-/
theorem compareLex_mergeSort {cmp : α → α → Ordering} [Std.TransCmp cmp] {as bs : List α}
    (hlength : as.length = bs.length) (hfound : ∀ a ∈ as, ∃ b ∈ bs, cmp a b = .eq)
    (hdistinct : as.Pairwise fun a a' => cmp a a' ≠ .eq) :
    (as.mergeSort fun a b => cmp a b != .gt).compareLex cmp
      (bs.mergeSort fun a b => cmp a b != .gt) = .eq := by
  have hmembers : Rearranges (fun a b => cmp a b == .eq) as bs := by
    apply rearranges_of_found hlength
    · intro a ha
      rcases hfound a ha with ⟨b, hb, hab⟩
      exact ⟨b, hb, beq_iff_eq.mpr hab⟩
    · apply hdistinct.imp
      intro a a' hne b _ hab hab'
      have hba' := Std.OrientedCmp.eq_symm (beq_iff_eq.mp hab')
      exact hne (Std.TransCmp.eq_trans (beq_iff_eq.mp hab) hba')
  have halike := forall₂_mergeSort (identifies_compare cmp) (fun _ _ => trivial)
    (fun _ _ => trivial) (fun _ _ _ _ => beq_iff_eq.mpr) (keepsApart_compare as bs) hmembers
  apply compareLex_eq_of_forall₂
  exact halike.imp fun _ _ => beq_iff_eq.mp

/-! ## Plain numbers -/

namespace Number

/-- The number is no minus zero, and if it is a NaN it is written as the given word. -/
def IsPlain (n nan : Number) : Prop :=
  (n.isNegative = true → n.isZero = false) ∧ (n.isNaN = true → n = nan)

theorem rank_eq_position (n : Number) : n.rank = n.position - if n.isNegative then 1 else 0 := by
  unfold rank position
  cases n.isNegative with
  | true => simp only [if_true]; omega
  | false => simp only [Bool.false_eq_true, if_false]; omega

theorem isNegative_eq_decide {nan n : Number} (h : n.IsPlain nan) :
    n.isNegative = decide (n.position < 0) := by
  have hzero := h.1
  unfold position
  rw [isZero, beq_eq_false_iff_ne] at hzero
  cases hsign : n.isNegative with
  | true =>
      have hpos := hzero hsign
      simp only [if_true]
      exact (decide_eq_true (by omega)).symm
  | false =>
      simp only [Bool.false_eq_true, if_false]
      exact (decide_eq_false (by omega)).symm

theorem compare_eq_of_same {nan a b : Number} (ha : a.IsPlain nan) (hb : b.IsPlain nan)
    (h : a.same b = true) : a.compare b = .eq := by
  rcases same_iff.mp h with ⟨hnan, hposition⟩
  have hrank : a.rank = b.rank := by
    cases haNaN : a.isNaN with
    | true =>
        have hab : a = b := (ha.2 haNaN).trans (hb.2 (hnan.symm.trans haNaN)).symm
        rw [hab]
    | false =>
        rw [rank_eq_position, rank_eq_position, isNegative_eq_decide ha,
          isNegative_eq_decide hb, hposition haNaN]
  rw [compare, hrank]
  exact Std.ReflCmp.compare_self

end Number

namespace Value

inductive HasPlainNumbers (nan : Number) : Value → Prop
  | intro {v : Value} (self : ∀ n, v = .number n → n.IsPlain nan)
      (parts : ∀ part ∈ v.parts, HasPlainNumbers nan part) : HasPlainNumbers nan v

theorem HasPlainNumbers.number {nan n : Number} (h : HasPlainNumbers nan (.number n)) :
    n.IsPlain nan := by
  cases h with
  | intro self _ => exact self n rfl

theorem HasPlainNumbers.parts {nan : Number} {v part : Value} (h : HasPlainNumbers nan v)
    (hpart : part ∈ v.parts) : HasPlainNumbers nan part := by
  cases h with
  | intro _ parts => exact parts part hpart

theorem orderly_of_parts {nan : Number} {v : Value} (hdistinct : v.HasDistinctParts)
    (hself : ∀ n, v = .number n → n.IsPlain nan)
    (hparts : ∀ part ∈ v.parts, part.WellFormed ∧ part.HasPlainNumbers nan) :
    v.WellFormed ∧ v.HasPlainNumbers nan := by
  constructor
  · exact .intro hdistinct fun part hpart => (hparts part hpart).1
  · exact .intro hself fun part hpart => (hparts part hpart).2

theorem orderly_number {nan n : Number} (h : n.IsPlain nan) :
    (Value.number n).WellFormed ∧ (Value.number n).HasPlainNumbers nan := by
  apply orderly_of_parts
  · trivial
  · intro m hm
    cases hm
    exact h
  · nofun

/-! ## Equal values in the order -/

theorem identifies_beq : Identifies (fun a b : Value => a == b) WellFormed where
  refl {a} _ := beq_refl a
  symm := isEquivalenceOn_wellFormed.symm
  trans := isEquivalenceOn_wellFormed.trans

theorem compare_ne_eq_of_beq_eq_false {a b : Value} (h : (a == b) = false) :
    a.compare b ≠ .eq := by
  intro heq
  rw [(beq_of_compare_eq a b).1 heq] at h
  cases h

theorem compare_eq_of_beq {nan : Number} {a b : Value} (ha : a.WellFormed) (hb : b.WellFormed)
    (haPlain : a.HasPlainNumbers nan) (hbPlain : b.HasPlainNumbers nan) (h : (a == b) = true) :
    a.compare b = .eq := by
  induction a using induction_parts generalizing b with
  | step a ih =>
      have hparts : ∀ x ∈ a.parts, ∀ y ∈ b.parts, (x == y) = true → x.compare y = .eq := by
        intro x hx y hy
        exact ih x hx (ha.parts hx) (hb.parts hy) (haPlain.parts hx) (hbPlain.parts hy)
      cases equalBy_of_beq h with
      | number hsame => exact Number.compare_eq_of_same haPlain.number hbPlain.number hsame
      | array hitems =>
          rw [compare_array]
          exact compareLex_eq_of_forall₂ (forall₂_of_mem hitems hparts)
      | set hlength hall =>
          rw [compare_set]
          apply compareLex_mergeSort hlength
          · intro x hx
            rcases hall x hx with ⟨y, hy, hyx⟩
            have hxy := identifies_beq.symm (hb.parts hy) (ha.parts hx) hyx
            exact ⟨y, hy, hparts x hx y hy hxy⟩
          · exact ha.distinct.imp compare_ne_eq_of_beq_eq_false
      | map hlength hall =>
          rw [compare_map]
          apply compareLex_mergeSort hlength
          · intro x hx
            rcases hall x hx with ⟨y, hy, hkey, hvalue⟩
            have hkeys :=
              hparts _ (mem_parts_map_key hx) _ (mem_parts_map_key hy) hkey
            have hvalues :=
              hparts _ (mem_parts_map_value hx) _ (mem_parts_map_value hy) hvalue
            exact ⟨y, hy, Ordering.then_eq_eq.mpr ⟨hkeys, hvalues⟩⟩
          · apply ha.distinct.imp
            intro x x' hne heq
            exact compare_ne_eq_of_beq_eq_false hne (Ordering.then_eq_eq.mp heq).1
      | object hfields =>
          rw [compare_object]
          apply compareLex_eq_of_forall₂
          apply forall₂_of_mem hfields
          intro x hx y hy hxy
          have hname : Ord.compare x.1 y.1 = .eq := by
            rw [hxy.1]
            exact Std.ReflCmp.compare_self
          have hvalue :=
            hparts _ (mem_parts_object hx) _ (mem_parts_object hy) hxy.2
          exact Ordering.then_eq_eq.mpr ⟨hname, hvalue⟩
      | _ => exact Std.ReflCmp.compare_self

example : (Value.number (.neg .zero) == .number .zero) = true ∧
    compare (.number (.neg .zero)) (.number .zero) = .lt := by
  decide

/--
For well-formed values whose numbers are plain, the order and equality make the same
difference, in whatever order the members of sets and maps are stored.
-/
theorem compare_eq_iff_beq {nan : Number} {a b : Value} (ha : a.WellFormed) (hb : b.WellFormed)
    (haPlain : a.HasPlainNumbers nan) (hbPlain : b.HasPlainNumbers nan) :
    a.compare b = .eq ↔ (a == b) = true := by
  constructor
  · exact (beq_of_compare_eq a b).1
  · exact compare_eq_of_beq ha hb haPlain hbPlain

theorem compare_eq_iff_beq_of_stored_orders :
    let a : Value :=
      .map [(.set [.number .nan, .string "x"], .number .zero), (.null, .array [.number .nan])]
    let b : Value :=
      .map [(.null, .array [.number .nan]), (.set [.string "x", .number .nan], .number .zero)]
    a.WellFormed ∧ b.WellFormed ∧ a.HasPlainNumbers .nan ∧ b.HasPlainNumbers .nan ∧
      (a == b) = true ∧ a.compare b = .eq := by
  intro a b
  let isOrderly (v : Value) : Prop := v.WellFormed ∧ v.HasPlainNumbers .nan
  have hnull : isOrderly .null := orderly_of_parts trivial nofun nofun
  have htext : isOrderly (.string "x") := orderly_of_parts trivial nofun nofun
  have hnan : isOrderly (.number .nan) := orderly_number ⟨by decide, fun _ => rfl⟩
  have hzero : isOrderly (.number .zero) := orderly_number ⟨by decide, by decide⟩
  have hlist : isOrderly (.array [.number .nan]) :=
    orderly_of_parts trivial nofun (List.forall_mem_singleton.mpr hnan)
  have hset : ∀ x y : Value, isOrderly x → isOrderly y → (x == y) = false →
      isOrderly (.set [x, y]) := by
    intro x y hx hy hne
    apply orderly_of_parts
    · simpa [HasDistinctParts] using hne
    · exact nofun
    · exact List.forall_mem_cons.mpr ⟨hx, List.forall_mem_singleton.mpr hy⟩
  have hmap : ∀ x y : Value × Value, isOrderly x.1 → isOrderly x.2 → isOrderly y.1 →
      isOrderly y.2 → (x.1 == y.1) = false → isOrderly (.map [x, y]) := by
    intro x y hx hx' hy hy' hne
    apply orderly_of_parts
    · simpa [HasDistinctParts] using hne
    · exact nofun
    · simp only [parts, List.map_cons, List.map_nil, List.cons_append, List.nil_append,
        List.forall_mem_cons]
      exact ⟨hx, hy, hx', hy', nofun⟩
  have ha : isOrderly a := hmap _ _ (hset _ _ hnan htext (by decide)) hzero hnull hlist (by decide)
  have hb : isOrderly b := hmap _ _ hnull hlist (hset _ _ htext hnan (by decide)) hzero (by decide)
  have hab : (a == b) = true := by decide
  exact ⟨ha.1, hb.1, ha.2, hb.2, hab, (compare_eq_iff_beq ha.1 hb.1 ha.2 hb.2).mpr hab⟩

end Value
end RecordFilter
