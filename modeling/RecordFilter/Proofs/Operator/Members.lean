import RecordFilter.Operator.Basic
import RecordFilter.Proofs.Value.Ascending

/-!
# Tests for the same members

An array or a set can be tested for having exactly the members of another one, in whatever
order.  The test sorts both and compares them place by place, so it never holds without
reason.  But it can fail where it should hold: two members may be in one order on one side and,
as equal members with other zeros, in the other order on the other side.

The main statement says for which members the test does what it is for, whatever it is asked.
The members without a minus zero, and with one word for NaN, are among them.
-/

namespace RecordFilter

/-! ## Places in two lists in order -/

theorem exists_partners_inOrder {α : Type} {cmp : α → α → Ordering} [Std.TransCmp cmp]
    {R : α → α → Prop} {as bs : List α} (h : List.Forall₂ R as bs) (haOrder : InOrder cmp as)
    (hbOrder : InOrder cmp bs) {a a' : α} (ha : a ∈ as) (ha' : a' ∈ as) (hlt : cmp a a' = .lt) :
    ∃ b ∈ bs, ∃ b' ∈ bs, R a b ∧ R a' b' ∧ (cmp b b').isLE = true := by
  induction h with
  | nil => cases ha
  | @cons x y xs ys hxy hrest ih =>
      rcases List.pairwise_cons.mp haOrder with ⟨hx, hxs⟩
      rcases List.pairwise_cons.mp hbOrder with ⟨hy, hys⟩
      rcases List.mem_cons.mp ha with rfl | hlater
      · rcases List.mem_cons.mp ha' with rfl | ha'
        · have hself : ∀ x, cmp x x = .eq := fun _ => Std.ReflCmp.compare_self
          rw [hself] at hlt
          cases hlt
        · rcases exists_mem_of_forall₂ hrest ha' with ⟨b', hb', hab'⟩
          exact ⟨y, List.mem_cons_self, b', List.mem_cons_of_mem y hb', hxy, hab', hy b' hb'⟩
      · rcases List.mem_cons.mp ha' with rfl | ha'
        · have hle := hx a hlater
          rw [Std.OrientedCmp.gt_of_lt hlt] at hle
          cases hle
        · rcases ih hxs hys hlater ha' with ⟨b, hb, b', hb', hab, hab', hle⟩
          exact ⟨b, List.mem_cons_of_mem y hb, b', List.mem_cons_of_mem y hb', hab, hab', hle⟩

namespace Value

/-! ## Sorted members -/

/-- The lists have equal values as members, with repetitions counted. -/
def SameMembers (xs ys : List Value) : Prop :=
  Rearranges (fun x y => x == y) xs ys

/-- Whatever equals the one comes before whatever equals the other. -/
def Precedes (x x' : Value) : Prop :=
  ∀ y y' : Value, y.WellFormed → y'.WellFormed → (x == y) = true → (x' == y') = true →
    y.compare y' = .lt

theorem sameItems_iff {xs ys : List Value} :
    sameItems xs ys = true ↔
      List.Forall₂ (fun x y => (x == y) = true) (sorted xs) (sorted ys) := by
  unfold sameItems
  rw [Bool.and_eq_true, beq_iff_eq, itemsAgree_iff]
  constructor
  · exact And.right
  · intro hsorted
    have hlength := hsorted.length_eq
    rw [sorted, sorted, List.length_mergeSort, List.length_mergeSort] at hlength
    exact ⟨hlength, hsorted⟩

theorem sameMembers_of_sameItems {xs ys : List Value} (h : sameItems xs ys = true) :
    SameMembers xs ys := by
  have hsorted : SameMembers (sorted xs) (sorted ys) :=
    ⟨sorted ys, .refl _, sameItems_iff.mp h⟩
  exact hsorted.perm (List.mergeSort_perm xs _).symm (List.mergeSort_perm ys _)

theorem sameItems_of_keepsApart {xs ys : List Value} (hxs : ∀ x ∈ xs, x.WellFormed)
    (hys : ∀ y ∈ ys, y.WellFormed) (hapart : KeepsApart compare (fun x y => x == y) xs ys)
    (h : SameMembers xs ys) : sameItems xs ys = true := by
  apply sameItems_iff.mpr
  apply forall₂_mergeSort identifies_beq hxs hys _ hapart h
  intro x _ x' _
  exact (beq_of_compare_eq x x').1

theorem keepsApart_of_precedes {xs ys : List Value}
    (h : ∀ x ∈ xs, ∀ x' ∈ xs, x.compare x' = .lt → (x == x') = false → Precedes x x')
    (hys : ∀ y ∈ ys, y.WellFormed) : KeepsApart compare (fun x y => x == y) xs ys := by
  intro x hx x' hx' hlt hne y hy y' hy'
  exact h x hx x' hx' hlt hne y y' (hys y hy) (hys y' hy')

theorem keepsApart_of_plain {nan : Number} {xs ys : List Value}
    (hxs : ∀ x ∈ xs, x.WellFormed ∧ x.HasPlainNumbers nan)
    (hys : ∀ y ∈ ys, y.WellFormed ∧ y.HasPlainNumbers nan) :
    KeepsApart compare (fun x y => x == y) xs ys := by
  intro x hx x' hx' hlt _ y hy y' hy' hxy hxy'
  have hcompare : ∀ {x y : Value}, x ∈ xs → y ∈ ys → (x == y) = true → x.compare y = .eq := by
    intro x y hx hy
    exact compare_eq_of_beq (hxs x hx).1 (hys y hy).1 (hxs x hx).2 (hys y hy).2
  have hyx' : y.compare x' = .lt := by
    rw [← Std.TransCmp.congr_left (hcompare hx hy hxy)]
    exact hlt
  rw [← Std.TransCmp.congr_right (hcompare hx' hy' hxy')]
  exact hyx'

theorem precedes_of_less {m n : Number} (h : m.less n = true) :
    Precedes (.number m) (.number n) := by
  intro y y' _ _ hy hy'
  cases equalBy_of_beq hy with
  | @number _ a hsame =>
      cases equalBy_of_beq hy' with
      | @number _ b hsame' =>
          simp only [Number.less, Bool.and_eq_true, Bool.not_eq_true', decide_eq_true_iff] at h
          have ha := (Number.same_iff.mp hsame).2 h.1.1
          have hb := (Number.same_iff.mp hsame').2 h.1.2
          have hrank : a.rank < b.rank := by
            have hless := h.2
            rw [ha, hb] at hless
            unfold Number.position at hless
            unfold Number.rank
            cases haSign : a.isNegative <;> cases hbSign : b.isNegative <;>
              simp only [haSign, hbSign, Bool.false_eq_true, if_true, if_false] at hless ⊢ <;>
              omega
          exact compare_lt_iff_lt.mpr hrank

/-! ## Exchanged members -/

def exchanged (x x' y y' v : Value) : Value :=
  if v == x then y else if v == x' then y' else v

structure CanExchange (x x' y y' : Value) : Prop where
  wellFormed : x.WellFormed ∧ x'.WellFormed
  given : y.WellFormed ∧ y'.WellFormed
  apart : (x == x') = false
  left : (x == y) = true
  right : (x' == y') = true

namespace CanExchange

variable {x x' y y' v : Value} (h : CanExchange x x' y y')
include h

theorem compare_ne_eq : y.compare y' ≠ .eq := by
  intro heq
  have hyy' := (beq_of_compare_eq y y').1 heq
  have hxy' := identifies_beq.trans h.wellFormed.1 h.given.1 h.given.2 h.left hyy'
  have hyx' := identifies_beq.symm h.wellFormed.2 h.given.2 h.right
  have happart := h.apart
  rw [identifies_beq.trans h.wellFormed.1 h.given.2 h.wellFormed.2 hxy' hyx'] at happart
  cases happart
variable (hv : v.WellFormed)
include hv

theorem wellFormed_exchanged : (exchanged x x' y y' v).WellFormed := by
  unfold exchanged
  split
  · exact h.given.1
  · split
    · exact h.given.2
    · exact hv

theorem beq_exchanged : (v == exchanged x x' y y' v) = true := by
  unfold exchanged
  split
  · next hvx => exact identifies_beq.trans hv h.wellFormed.1 h.given.1 hvx h.left
  · split
    · next hvx => exact identifies_beq.trans hv h.wellFormed.2 h.given.2 hvx h.right
    · exact beq_refl v

theorem beq_of_beq_exchanged {u : Value} (hu : u.WellFormed)
    (hfound : (u == exchanged x x' y y' v) = true) : (v == u) = true := by
  have hgood := h.wellFormed_exchanged hv
  exact identifies_beq.trans hv hgood hu (h.beq_exchanged hv)
    (identifies_beq.symm hu hgood hfound)

theorem exchanged_eq_left (hfound : (x == exchanged x x' y y' v) = true) :
    exchanged x x' y y' v = y :=
  if_pos (h.beq_of_beq_exchanged hv h.wellFormed.1 hfound)

theorem exchanged_eq_right (hfound : (x' == exchanged x x' y y' v) = true) :
    exchanged x x' y y' v = y' := by
  have hvx := h.beq_of_beq_exchanged hv h.wellFormed.2 hfound
  have hother : ¬ (v == x) = true := by
    intro hsame
    have hxv := identifies_beq.symm hv h.wellFormed.1 hsame
    have happart := h.apart
    rw [identifies_beq.trans h.wellFormed.1 hv h.wellFormed.2 hxv hvx] at happart
    cases happart
  exact (if_neg hother).trans (if_pos hvx)

end CanExchange

/-- If the test never fails without reason for a list, the order keeps its members apart. -/
theorem precedes_of_sameItems {xs : List Value} (hxs : ∀ x ∈ xs, x.WellFormed)
    (h : ∀ ys : List Value, (∀ y ∈ ys, y.WellFormed) → SameMembers xs ys → sameItems xs ys = true)
    {x x' : Value} (hx : x ∈ xs) (hx' : x' ∈ xs) (hlt : x.compare x' = .lt)
    (hne : (x == x') = false) : Precedes x x' := by
  intro y y' hy hy' hxy hxy'
  have hexchange : CanExchange x x' y y' := ⟨⟨hxs x hx, hxs x' hx'⟩, ⟨hy, hy'⟩, hne, hxy, hxy'⟩
  let ys : List Value := xs.map (exchanged x x' y y')
  have hmem : ∀ z ∈ sorted ys, ∃ v, v.WellFormed ∧ exchanged x x' y y' v = z := by
    intro z hz
    rcases List.mem_map.mp (List.mem_mergeSort.mp hz) with ⟨v, hv, hvz⟩
    exact ⟨v, hxs v hv, hvz⟩
  have hys : ∀ z ∈ ys, z.WellFormed := by
    intro z hz
    rcases List.mem_map.mp hz with ⟨v, hv, rfl⟩
    exact hexchange.wellFormed_exchanged (hxs v hv)
  have hmembers : SameMembers xs ys := by
    refine ⟨ys, .refl ys, ?_⟩
    rw [List.forall₂_map_right_iff, List.forall₂_same]
    intro v hv
    exact hexchange.beq_exchanged (hxs v hv)
  rcases exists_partners_inOrder (sameItems_iff.mp (h ys hys hmembers)) (pairwise_sorted xs)
    (pairwise_sorted ys) (List.mem_mergeSort.mpr hx) (List.mem_mergeSort.mpr hx') hlt with
    ⟨z, hz, z', hz', hxz, hxz', hle⟩
  have hzy : z = y := by
    rcases hmem z hz with ⟨v, hv, rfl⟩
    exact hexchange.exchanged_eq_left hv hxz
  have hzy' : z' = y' := by
    rcases hmem z' hz' with ⟨v, hv, rfl⟩
    exact hexchange.exchanged_eq_right hv hxz'
  rw [hzy, hzy'] at hle
  rcases Ordering.isLE_iff_eq_lt_or_eq_eq.mp hle with hlt | heq
  · exact hlt
  · exact absurd heq hexchange.compare_ne_eq

end Value

/-! ## The tests -/

open Value

inductive AsksForMembers : Operator → Value → Value → List Value → List Value → Prop
  | array {xs ys : List Value} {operand : Value} (hoperand : operand.items? = some ys) :
      AsksForMembers (.array .exactlyMatches) (.array xs) operand xs ys
  | set {xs ys : List Value} {v operand : Value} (hv : v.items? = some xs)
      (hoperand : operand.items? = some ys) :
      AsksForMembers (.set (.ofArray .exactlyMatches)) v operand xs ys

theorem AsksForMembers.holds_eq {op : Operator} {v operand : Value} {xs ys : List Value}
    (h : AsksForMembers op v operand xs ys) (now : Instant) :
    op.holds now v operand = sameItems xs ys := by
  cases h with
  | array hoperand =>
      simp only [Operator.holds, ArrayOperator.holds, ArrayOperator.holdsOfItems, hoperand,
        Option.any_some]
  | set hv hoperand =>
      simp only [Operator.holds, SetOperator.holds, ArrayOperator.holdsOfItems, hv, hoperand,
        Option.any_some]

/--
The test holds for the same members only.  It holds for all of them if their numbers are plain,
and whatever it is asked about a list, exactly if the order keeps apart what equals one and what
equals another member of the list.
-/
theorem exactlyMatches_same_members (xs : List Value) :
    (∀ {op v operand ys}, AsksForMembers op v operand xs ys → ∀ now,
      op.holds now v operand = true → SameMembers xs ys) ∧
    (∀ {op v operand ys nan}, AsksForMembers op v operand xs ys →
      (∀ x ∈ xs, x.WellFormed ∧ x.HasPlainNumbers nan) →
      (∀ y ∈ ys, y.WellFormed ∧ y.HasPlainNumbers nan) → ∀ now,
        (op.holds now v operand = true ↔ SameMembers xs ys)) ∧
    ((∀ x ∈ xs, x.WellFormed) →
      ((∀ x ∈ xs, ∀ x' ∈ xs, x.compare x' = .lt → (x == x') = false → Precedes x x') ↔
        ∀ {op v operand ys}, AsksForMembers op v operand xs ys → (∀ y ∈ ys, y.WellFormed) →
          ∀ now, (op.holds now v operand = true ↔ SameMembers xs ys))) := by
  refine ⟨?_, ?_, ?_⟩
  · intro op v operand ys hasks now hholds
    rw [hasks.holds_eq now] at hholds
    exact sameMembers_of_sameItems hholds
  · intro op v operand ys nan hasks hxs hys now
    rw [hasks.holds_eq now]
    constructor
    · exact sameMembers_of_sameItems
    · exact sameItems_of_keepsApart (fun x hx => (hxs x hx).1) (fun y hy => (hys y hy).1)
        (keepsApart_of_plain hxs hys)
  · intro hxs
    constructor
    · intro hprecedes op v operand ys hasks hys now
      rw [hasks.holds_eq now]
      constructor
      · exact sameMembers_of_sameItems
      · exact sameItems_of_keepsApart hxs hys (keepsApart_of_precedes hprecedes hys)
    · intro hexact x hx x' hx'
      apply precedes_of_sameItems hxs _ hx hx'
      intro ys hys hmembers
      have hasks : AsksForMembers (.array .exactlyMatches) (.array xs) (.array ys) xs ys :=
        .array rfl
      rw [← hasks.holds_eq ⟨0, 0⟩]
      exact (hexact hasks hys ⟨0, 0⟩).mpr hmembers

theorem exactlyMatches_same_members_of_zeros :
    let one : Value := .number (.ofNat 1)
    let zero : Value := .number .zero
    let minusZero : Value := .number (.neg .zero)
    let pair : Value := .array [.number .nan, one]
    (∀ now, (Operator.array .exactlyMatches).holds now (.array [pair, zero])
      (.array [zero, pair]) = true) ∧
    Precedes minusZero one ∧
    ∀ now, (Operator.set (.ofArray .exactlyMatches)).holds now (.set [minusZero, one])
      (.array [one, zero]) = true := by
  intro one zero minusZero pair
  have hone : one.WellFormed ∧ one.HasPlainNumbers .nan :=
    orderly_number ⟨by decide +kernel, by decide +kernel⟩
  have hzero : zero.WellFormed ∧ zero.HasPlainNumbers .nan :=
    orderly_number ⟨by decide, by decide⟩
  have hnan : (Value.number .nan).WellFormed ∧ (Value.number .nan).HasPlainNumbers .nan :=
    orderly_number ⟨by decide, fun _ => rfl⟩
  have hpair : pair.WellFormed ∧ pair.HasPlainNumbers .nan :=
    orderly_of_parts trivial nofun
      (List.forall_mem_cons.mpr ⟨hnan, List.forall_mem_singleton.mpr hone⟩)
  have hless : Precedes minusZero one := precedes_of_less (by decide +kernel)
  rcases exactlyMatches_same_members [pair, zero] with ⟨-, hplain, -⟩
  rcases exactlyMatches_same_members [minusZero, one] with ⟨-, -, hexact⟩
  refine ⟨?_, hless, ?_⟩
  · intro now
    have hleft : ∀ x ∈ [pair, zero], x.WellFormed ∧ x.HasPlainNumbers .nan :=
      List.forall_mem_cons.mpr ⟨hpair, List.forall_mem_singleton.mpr hzero⟩
    have hright : ∀ y ∈ [zero, pair], y.WellFormed ∧ y.HasPlainNumbers .nan :=
      List.forall_mem_cons.mpr ⟨hzero, List.forall_mem_singleton.mpr hpair⟩
    apply (hplain (.array rfl) hleft hright now).mpr
    exact ⟨_, .swap .., List.forall₂_same.mpr fun x _ => beq_refl x⟩
  · intro now
    have hminus : minusZero.WellFormed := wellFormed_of_parts_eq_nil trivial rfl
    have hwell : ∀ x ∈ [minusZero, one], x.WellFormed :=
      List.forall_mem_cons.mpr ⟨hminus, List.forall_mem_singleton.mpr hone.1⟩
    apply ((hexact hwell).mp _ (.set rfl rfl) _ now).mpr
    · refine ⟨[zero, one], .swap .., .cons ?_ (.cons ?_ .nil)⟩
      · decide
      · exact beq_refl one
    · intro x hx x' hx' hlt hne
      have hself : ∀ v : Value, v.compare v = .eq := fun _ => Std.ReflCmp.compare_self
      simp only [List.mem_cons, List.not_mem_nil, or_false] at hx hx'
      rcases hx with rfl | rfl <;> rcases hx' with rfl | rfl
      · rw [hself] at hlt
        cases hlt
      · exact hless
      · have hgt : one.compare minusZero = .gt := by decide +kernel
        rw [hgt] at hlt
        cases hlt
      · rw [hself] at hlt
        cases hlt
    · exact List.forall_mem_cons.mpr ⟨hone.1, List.forall_mem_singleton.mpr hzero.1⟩

/-- Two pairs of numbers that are equal one by one, but sorted with the zeros in their way. -/
theorem exactlyMatches_misses_zeros :
    let zero : Value := .number .zero
    let minusZero : Value := .number (.neg .zero)
    let xs : List Value := [.array [zero, .boolean true], .array [minusZero, .null]]
    let ys : List Value := [.array [minusZero, .boolean true], .array [zero, .null]]
    (∀ v ∈ xs ++ ys, v.WellFormed) ∧ SameMembers xs ys ∧
      (∀ now, (Operator.array .exactlyMatches).holds now (.array xs) (.array ys) = false) ∧
      ∀ now, (Operator.set (.ofArray .exactlyMatches)).holds now (.set xs) (.set ys) = false := by
  intro zero minusZero xs ys
  have hpair : ∀ v w : Value, v.WellFormed → w.WellFormed → (Value.array [v, w]).WellFormed := by
    intro v w hv hw
    exact .intro trivial (List.forall_mem_cons.mpr ⟨hv, List.forall_mem_singleton.mpr hw⟩)
  have hzero : zero.WellFormed := wellFormed_of_parts_eq_nil trivial rfl
  have hminus : minusZero.WellFormed := wellFormed_of_parts_eq_nil trivial rfl
  have htrue : (Value.boolean true).WellFormed := wellFormed_of_parts_eq_nil trivial rfl
  have hnull : Value.null.WellFormed := wellFormed_of_parts_eq_nil trivial rfl
  have hsorted : sameItems xs ys = false := by cbv
  refine ⟨?_, ?_, ?_, ?_⟩
  · simp only [xs, ys, List.cons_append, List.nil_append, List.forall_mem_cons]
    exact ⟨hpair _ _ hzero htrue, hpair _ _ hminus hnull, hpair _ _ hminus htrue,
      hpair _ _ hzero hnull, List.forall_mem_nil _⟩
  · refine ⟨ys, .refl ys, .cons ?_ (.cons ?_ .nil)⟩
    · decide
    · decide
  · intro now
    have hasks : AsksForMembers (.array .exactlyMatches) (.array xs) (.array ys) xs ys :=
      .array rfl
    rw [hasks.holds_eq now, hsorted]
  · intro now
    have hasks : AsksForMembers (.set (.ofArray .exactlyMatches)) (.set xs) (.set ys) xs ys :=
      .set rfl rfl
    rw [hasks.holds_eq now, hsorted]

end RecordFilter
