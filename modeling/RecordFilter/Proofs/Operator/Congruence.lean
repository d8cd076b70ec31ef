import RecordFilter.Proofs.Operator.Members
import RecordFilter.Proofs.Operator.Shape
import RecordFilter.Proofs.Value.Containment

/-!
# Equal operands

Equal values may be stored in different ways: the items of a set and the entries of a map have
no order.  An operator sees of a value what its views show, which is its kind, its number, its
items or its fields, and the views of equal values show the same up to equality again.  So an
operator cannot tell equal values apart if the tests it makes on these views cannot.

Only the test for exactly the same members needs more than well-formed values, because it
sorts: the numbers have to be plain.

The main statement says this of all operators on booleans, numbers, arrays, sets and objects.
-/

namespace RecordFilter

/-! ## Related views -/

section Views

variable {α β : Type} {R : α → β → Prop} {p : α → Bool} {q : β → Bool}

theorem any_eq_of_rel {x : Option α} {y : Option β} (h : Option.Rel R x y)
    (hpq : ∀ a b, x = some a → y = some b → R a b → p a = q b) : x.any p = y.any q := by
  cases h with
  | some hab => exact hpq _ _ rfl rfl hab
  | none => rfl

theorem rel_bind {γ δ : Type} {S : γ → δ → Prop} {f : α → Option γ} {g : β → Option δ}
    {x : Option α} {y : Option β} (h : Option.Rel R x y)
    (hfg : ∀ a b, R a b → Option.Rel S (f a) (g b)) : Option.Rel S (x.bind f) (y.bind g) := by
  cases h with
  | some hab => exact hfg _ _ hab
  | none => exact .none

theorem any_eq_of_forall₂ {as : List α} {bs : List β} (h : List.Forall₂ R as bs)
    (hpq : ∀ a b, R a b → p a = q b) : as.any p = bs.any q := by
  induction h with
  | nil => rfl
  | cons hab _ ih => rw [List.any_cons, List.any_cons, hpq _ _ hab, ih]

theorem isEmpty_eq_of_length_eq {as : List α} {bs : List β} (h : as.length = bs.length) :
    as.isEmpty = bs.isEmpty := by
  rw [Bool.eq_iff_iff, List.isEmpty_iff_length_eq_zero, List.isEmpty_iff_length_eq_zero, h]

end Views

namespace Keyed

variable {α β : Type}

theorem contains_eq_of_keys_eq {entries : List (String × α)} {others : List (String × β)}
    (h : keys entries = keys others) (key : String) :
    contains key entries = contains key others := by
  rw [Bool.eq_iff_iff, contains_iff, contains_iff, ← mem_keys_iff, ← mem_keys_iff, h]

end Keyed

/-! ## Numbers -/

namespace Number

variable {a a' b b' : Number}

theorem compared_congr (r : Int → Int → Bool) (ha : a.same a' = true) (hb : b.same b' = true) :
    (!a.isNaN && !b.isNaN && r a.position b.position) =
      (!a'.isNaN && !b'.isNaN && r a'.position b'.position) := by
  rcases same_iff.mp ha with ⟨hanan, haposition⟩
  rcases same_iff.mp hb with ⟨hbnan, hbposition⟩
  rw [← hanan, ← hbnan]
  cases hna : a.isNaN with
  | true => rfl
  | false =>
      cases hnb : b.isNaN with
      | true => rfl
      | false => rw [haposition hna, hbposition hnb]

theorem equals_congr (ha : a.same a' = true) (hb : b.same b' = true) :
    a.equals b = a'.equals b' :=
  compared_congr (fun i j => i == j) ha hb

theorem less_congr (ha : a.same a' = true) (hb : b.same b' = true) : a.less b = a'.less b' :=
  compared_congr (fun i j => decide (i < j)) ha hb

theorem atMost_congr (ha : a.same a' = true) (hb : b.same b' = true) :
    a.atMost b = a'.atMost b' :=
  compared_congr (fun i j => decide (i ≤ j)) ha hb

theorem isZero_eq_decide (n : Number) : n.isZero = decide (n.position = 0) := by
  have hzero : n.magnitude = 0 ↔ n.position = 0 := by
    unfold position
    cases n.isNegative with
    | true => simp only [if_true]; omega
    | false => simp only [Bool.false_eq_true, if_false]; omega
  rw [Bool.eq_iff_iff, decide_eq_true_iff, ← hzero]
  exact beq_iff_eq

end Number

theorem Comparison.holds_congr {a a' b b' : Number} (comparison : Comparison)
    (ha : a.same a' = true) (hb : b.same b' = true) :
    comparison.holds a b = comparison.holds a' b' := by
  cases comparison with
  | equals => exact Number.equals_congr ha hb
  | greater => exact Number.less_congr hb ha
  | greaterOrEquals => exact Number.atMost_congr hb ha
  | less => exact Number.less_congr ha hb
  | lessOrEquals => exact Number.atMost_congr ha hb

/-! ## The same members -/

section Rearranged

variable {α : Type} {R : α → α → Bool} {P : α → Prop} (hR : Identifies R P) {as bs cs : List α}
include hR

theorem Identifies.congr {a a' b b' : α} (ha : P a) (ha' : P a') (hb : P b) (hb' : P b')
    (haa' : R a a' = true) (hbb' : R b b' = true) : R a b = R a' b' := by
  rw [Bool.eq_iff_iff]
  constructor
  · intro hab
    exact hR.trans ha' ha hb' (hR.symm ha ha' haa') (hR.trans ha hb hb' hab hbb')
  · intro hab
    exact hR.trans ha ha' hb haa' (hR.trans ha' hb' hb hab (hR.symm hb hb' hbb'))

theorem Rearranges.symm (h : Rearranges R as bs) (ha : ∀ a ∈ as, P a) (hb : ∀ b ∈ bs, P b) :
    Rearranges R bs as := by
  rcases h with ⟨cs, hperm, hrelated⟩
  have hturned : List.Forall₂ (fun a c => R c a = true) as cs := by
    apply Value.forall₂_of_mem hrelated
    intro a hmem c hc
    exact hR.symm (ha a hmem) (hb c (hperm.mem_iff.mp hc))
  have hstored : Rearranges R cs as := ⟨as, .refl as, hturned.flip⟩
  exact hstored.perm hperm.symm (.refl as)

theorem Rearranges.trans (hab : Rearranges R as bs) (hbc : Rearranges R bs cs)
    (ha : ∀ a ∈ as, P a) (hb : ∀ b ∈ bs, P b) (hc : ∀ c ∈ cs, P c) : Rearranges R as cs := by
  rcases hab with ⟨bs', hperm, hrelated⟩
  rcases hbc.perm hperm (.refl cs) with ⟨cs', hperm', hrelated'⟩
  refine ⟨cs', hperm', Value.forall₂_comp_of_mem hrelated hrelated' ?_⟩
  intro a ha' b hb' c hc'
  exact hR.trans (ha a ha') (hb b (hperm.mem_iff.mp hb')) (hc c (hperm'.mem_iff.mp hc'))

end Rearranged

namespace Value

/-! ## Equal values -/

structure Alike (v w : Value) : Prop where
  left : v.WellFormed
  right : w.WellFormed
  equal : (v == w) = true

structure AlikeItems (xs ys : List Value) : Prop where
  left : ∀ x ∈ xs, x.WellFormed
  right : ∀ y ∈ ys, y.WellFormed
  same : SameMembers xs ys

theorem Alike.symm {v w : Value} (h : Alike v w) : Alike w v :=
  ⟨h.right, h.left, identifies_beq.symm h.left h.right h.equal⟩

theorem AlikeItems.symm {xs ys : List Value} (h : AlikeItems xs ys) : AlikeItems ys xs :=
  ⟨h.right, h.left, Rearranges.symm identifies_beq h.same h.left h.right⟩

theorem alikeItems_of_forall₂ {xs ys : List Value} (hxs : ∀ x ∈ xs, x.WellFormed)
    (hys : ∀ y ∈ ys, y.WellFormed) (h : List.Forall₂ (fun x y => (x == y) = true) xs ys) :
    AlikeItems xs ys :=
  ⟨hxs, hys, ys, .refl ys, h⟩

section Members

variable {v w : Value} {xs ys xs' ys' : List Value}

theorem AlikeItems.length_eq (h : AlikeItems xs ys) : xs.length = ys.length := by
  rcases h.same with ⟨zs, hperm, hrelated⟩
  rw [hrelated.length_eq, hperm.length_eq]

theorem AlikeItems.exists_alike (h : AlikeItems xs ys) {x : Value} (hx : x ∈ xs) :
    ∃ y ∈ ys, Alike x y := by
  rcases h.same with ⟨zs, hperm, hrelated⟩
  rcases exists_mem_of_forall₂ hrelated hx with ⟨y, hy, hxy⟩
  have hmem := hperm.mem_iff.mp hy
  exact ⟨y, hmem, h.left x hx, h.right y hmem, hxy⟩

theorem AlikeItems.sameMembers (h : AlikeItems xs xs') (h' : AlikeItems ys ys')
    (hsame : SameMembers xs ys) : SameMembers xs' ys' := by
  have hthere := Rearranges.trans identifies_beq h.symm.same hsame h.right h.left h'.left
  exact Rearranges.trans identifies_beq hthere h'.same h.right h'.left h'.right

theorem Alike.items (h : Alike v w) : Option.Rel AlikeItems v.items? w.items? := by
  have hparts : ∀ x ∈ v.parts, x.WellFormed := fun x => h.left.parts
  have hparts' : ∀ y ∈ w.parts, y.WellFormed := fun y => h.right.parts
  cases equalBy_of_beq h.equal with
  | array hitems => exact .some (alikeItems_of_forall₂ hparts hparts' hitems)
  | @set as bs hlength hfound =>
      apply Option.Rel.some
      constructor
      · exact hparts
      · exact hparts'
      · apply rearranges_of_found hlength
        · intro x hx
          rcases hfound x hx with ⟨y, hy, hyx⟩
          exact ⟨y, hy, identifies_beq.symm (hparts' y hy) (hparts x hx) hyx⟩
        · apply List.Pairwise.imp_of_mem _ h.left.distinct
          intro x x' hx hx' hne y hy hxy hxy'
          have hyx' := identifies_beq.symm (hparts x' hx') (hparts' y hy) hxy'
          rw [identifies_beq.trans (hparts x hx) (hparts' y hy) (hparts x' hx') hxy hyx'] at hne
          cases hne
  | _ => exact .none

end Members

/-! ## Tests of equal values -/

section Tests

variable {v v' m m' : Value} (hv : Alike v v') (hm : Alike m m')

theorem Alike.isSome_object? (h : Alike m m') : m.object?.isSome = m'.object?.isSome := by
  cases equalBy_of_beq h.equal with
  | _ => rfl

include hv hm

theorem beq_congr : (v == m) = (v' == m') :=
  identifies_beq.congr hv.left hv.right hm.left hm.right hv.equal hm.equal

theorem contains_congr : v.contains m = v'.contains m' := by
  have hforth : ∀ {v v' m m' : Value}, Alike v v' → Alike m m' → v.contains m = true →
      v'.contains m' = true := by
    intro v v' m m' hv hm h
    have hvm := contains_trans hv.right hv.left hm.left (contains_of_beq hv.symm.equal) h
    exact contains_trans hv.right hm.left hm.right hvm (contains_of_beq hm.equal)
  rw [Bool.eq_iff_iff]
  exact ⟨hforth hv hm, hforth hv.symm hm.symm⟩

theorem isIdentical_congr : v.isIdentical m = v'.isIdentical m' := by
  cases equalBy_of_beq hv.equal with
  | number hsame =>
      cases equalBy_of_beq hm.equal with
      | number hsame' => exact Number.equals_congr hsame hsame'
      | _ => rfl
  | _ =>
      cases equalBy_of_beq hm.equal with
      | _ => rfl

omit hm

theorem isTruthy_congr : v.isTruthy = v'.isTruthy := by
  cases equalBy_of_beq hv.equal with
  | @number n n' hsame =>
      rcases Number.same_iff.mp hsame with ⟨hnan, hposition⟩
      simp only [isTruthy, Number.isZero_eq_decide]
      cases hn : n.isNaN with
      | true => rw [← hnan, hn, Bool.not_true, Bool.and_false, Bool.and_false]
      | false => rw [← hnan, hn, hposition hn]
  | _ => rfl

theorem isNil_congr : v.isNil = v'.isNil := by
  cases equalBy_of_beq hv.equal with
  | _ => rfl

theorem isNull_congr : v.isNull = v'.isNull := by
  cases equalBy_of_beq hv.equal with
  | _ => rfl

theorem isUndefined_congr : v.isUndefined = v'.isUndefined := by
  cases equalBy_of_beq hv.equal with
  | _ => rfl

omit hv

theorem isAmong_of_alike {xs ys : List Value} (hm : Alike m m') (hitems : AlikeItems xs ys)
    (h : m.isAmong xs = true) : m'.isAmong ys = true := by
  rcases List.any_eq_true.mp h with ⟨x, hx, hxm⟩
  rcases hitems.exists_alike hx with ⟨y, hy, hxy⟩
  rw [beq_congr hxy hm] at hxm
  exact List.any_eq_true.mpr ⟨y, hy, hxm⟩

include hm

theorem isAmong_congr {xs ys : List Value} (hitems : AlikeItems xs ys) :
    m.isAmong xs = m'.isAmong ys := by
  rw [Bool.eq_iff_iff]
  exact ⟨isAmong_of_alike hm hitems, isAmong_of_alike hm.symm hitems.symm⟩

end Tests

end Value

open Value

/-! ## Arrays and sets -/

section Sequences

variable {xs ys ws ws' : List Value}

theorem haveAll_congr (hitems : AlikeItems xs ys) (hwanted : AlikeItems ws ws') :
    haveAll xs ws = haveAll ys ws' := by
  have hforth : ∀ {xs ys ws ws' : List Value}, AlikeItems xs ys → AlikeItems ws ws' →
      haveAll xs ws = true → haveAll ys ws' = true := by
    intro xs ys ws ws' hitems hwanted h
    apply List.all_eq_true.mpr
    intro w' hw'
    rcases hwanted.symm.exists_alike hw' with ⟨w, hw, halike⟩
    exact isAmong_of_alike halike.symm hitems (List.all_eq_true.mp h w hw)
  rw [Bool.eq_iff_iff]
  exact ⟨hforth hitems hwanted, hforth hitems.symm hwanted.symm⟩

theorem haveAny_congr (hitems : AlikeItems xs ys) (hwanted : AlikeItems ws ws') :
    haveAny xs ws = haveAny ys ws' := by
  have hforth : ∀ {xs ys ws ws' : List Value}, AlikeItems xs ys → AlikeItems ws ws' →
      haveAny xs ws = true → haveAny ys ws' = true := by
    intro xs ys ws ws' hitems hwanted h
    rcases List.any_eq_true.mp h with ⟨w, hw, hamong⟩
    rcases hwanted.exists_alike hw with ⟨w', hw', halike⟩
    exact List.any_eq_true.mpr ⟨w', hw', isAmong_of_alike halike hitems hamong⟩
  rw [Bool.eq_iff_iff]
  exact ⟨hforth hitems hwanted, hforth hitems.symm hwanted.symm⟩

variable {nan : Number}

/-- Sorting finds the same members if all numbers are plain. -/
theorem sameItems_iff_of_plain (hxs : ∀ x ∈ xs, x.WellFormed ∧ x.HasPlainNumbers nan)
    (hws : ∀ w ∈ ws, w.WellFormed ∧ w.HasPlainNumbers nan) :
    sameItems xs ws = true ↔ SameMembers xs ws := by
  constructor
  · exact sameMembers_of_sameItems
  · apply sameItems_of_keepsApart
    · exact fun x hx => (hxs x hx).1
    · exact fun w hw => (hws w hw).1
    · exact keepsApart_of_plain hxs hws

theorem sameItems_congr (hitems : AlikeItems xs ys) (hexpected : AlikeItems ws ws')
    (hplain : ∀ v ∈ xs ++ ys ++ ws ++ ws', v.HasPlainNumbers nan) :
    sameItems xs ws = sameItems ys ws' := by
  simp only [List.forall_mem_append] at hplain
  rcases hplain with ⟨⟨⟨hxs, hys⟩, hws⟩, hws'⟩
  rw [Bool.eq_iff_iff,
    sameItems_iff_of_plain (fun x hx => ⟨hitems.left x hx, hxs x hx⟩)
      (fun w hw => ⟨hexpected.left w hw, hws w hw⟩),
    sameItems_iff_of_plain (fun y hy => ⟨hitems.right y hy, hys y hy⟩)
      (fun w hw => ⟨hexpected.right w hw, hws' w hw⟩)]
  constructor
  · exact hitems.sameMembers hexpected
  · exact hitems.symm.sameMembers hexpected.symm

end Sequences

theorem Comparison.holdsOfSize_congr (comparison : Comparison) {size size' : Nat}
    (hsize : size = size') {m m' : Value} (hm : Alike m m') :
    comparison.holdsOfSize size m = comparison.holdsOfSize size' m' := by
  cases equalBy_of_beq hm.equal with
  | number hsame =>
      rw [hsize]
      exact comparison.holds_congr (Number.same_refl _) hsame
  | _ => rfl

theorem ArrayOperator.holdsOfItems_congr (op : ArrayOperator) {xs ys : List Value}
    (hitems : AlikeItems xs ys) {m m' : Value} (hm : Alike m m')
    (hsame : op = .exactlyMatches → ∀ ws ws', m.items? = some ws → m'.items? = some ws' →
      AlikeItems ws ws' → sameItems xs ws = sameItems ys ws') :
    op.holdsOfItems xs m = op.holdsOfItems ys m' := by
  have hlength := hitems.length_eq
  cases op with
  | exactlyMatches => exact any_eq_of_rel hm.items (hsame rfl)
  | includesAll => exact any_eq_of_rel hm.items fun _ _ _ _ => haveAll_congr hitems
  | includesAny => exact any_eq_of_rel hm.items fun _ _ _ _ => haveAny_congr hitems
  | notIncludesAll =>
      exact any_eq_of_rel hm.items fun _ _ _ _ hws => congrArg not (haveAll_congr hitems hws)
  | notIncludesAny =>
      exact any_eq_of_rel hm.items fun _ _ _ _ hws => congrArg not (haveAny_congr hitems hws)
  | size comparison => exact comparison.holdsOfSize_congr hlength hm
  | isEmpty => exact isEmpty_eq_of_length_eq hlength
  | isNotEmpty => exact congrArg not (isEmpty_eq_of_length_eq hlength)

/-! ## Booleans and numbers -/

theorem BooleanOperator.holds_congr (op : BooleanOperator) {v v' m m' : Value} (hv : Alike v v')
    (hm : Alike m m') : op.holds v m = op.holds v' m' := by
  cases op with
  | equals => exact beq_congr hv hm
  | notEquals => exact congrArg not (beq_congr hv hm)
  | strictEqual => exact isIdentical_congr hv hm
  | strictNotEqual => exact congrArg not (isIdentical_congr hv hm)
  | is | isNot =>
      cases equalBy_of_beq hv.equal with
      | _ =>
          cases equalBy_of_beq hm.equal with
          | _ => rfl
  | isTruthy => exact isTruthy_congr hv
  | isFalsy => exact congrArg not (isTruthy_congr hv)
  | isNil => exact isNil_congr hv
  | isNotNil => exact congrArg not (isNil_congr hv)
  | isNull => exact isNull_congr hv
  | isNotNull => exact congrArg not (isNull_congr hv)
  | isUndefined => exact isUndefined_congr hv
  | isDefined => exact congrArg not (isUndefined_congr hv)

abbrev SameNumbers : List Number → List Number → Prop :=
  List.Forall₂ fun a b => a.same b = true

theorem Value.Alike.number? {m m' : Value} (h : Alike m m') :
    Option.Rel (fun a b => Number.same a b = true) m.number? m'.number? := by
  cases equalBy_of_beq h.equal with
  | number hsame => exact .some hsame
  | _ => exact .none

theorem rel_mapM_number? {xs ys : List Value} (h : List.Forall₂ Alike xs ys) :
    Option.Rel SameNumbers (xs.mapM Value.number?) (ys.mapM Value.number?) := by
  induction h with
  | nil => exact .some .nil
  | @cons x y xs ys hxy _ ih =>
      rw [List.mapM_cons, List.mapM_cons]
      apply rel_bind hxy.number?
      intro a b hsame
      apply rel_bind ih
      intro ns ns' hrest
      exact .some (.cons hsame hrest)

theorem Value.Alike.numbers? {m m' : Value} (h : Alike m m') :
    Option.Rel SameNumbers (numbers? m) (numbers? m') := by
  cases equalBy_of_beq h.equal with
  | array hitems =>
      apply rel_mapM_number?
      apply forall₂_of_mem hitems
      intro x hx y hy hxy
      exact ⟨h.left.parts hx, h.right.parts hy, hxy⟩
  | _ => exact .none

theorem Value.Alike.bounds? {m m' : Value} (h : Alike m m') :
    Option.Rel (fun a b => a.1.same b.1 = true ∧ a.2.same b.2 = true) (bounds? m)
      (bounds? m') := by
  have hnumbers := h.numbers?
  unfold RecordFilter.bounds?
  generalize RecordFilter.numbers? m = ns at hnumbers ⊢
  generalize RecordFilter.numbers? m' = ns' at hnumbers ⊢
  cases hnumbers with
  | none => exact .none
  | some hnumbers =>
      cases hnumbers with
      | nil => exact .none
      | cons hlow hrest =>
          cases hrest with
          | nil => exact .none
          | cons hhigh hmore =>
              cases hmore with
              | nil => exact .some ⟨hlow, hhigh⟩
              | cons _ _ => exact .none

theorem NumberOperator.holdsOfNumber_congr (op : NumberOperator) {n n' : Number}
    (hn : n.same n' = true) {m m' : Value} (hm : Alike m m') :
    op.holdsOfNumber n m = op.holdsOfNumber n' m' := by
  have hamong : ∀ ns ns', SameNumbers ns ns' → ns.any n.equals = ns'.any n'.equals := by
    intro ns ns' h
    exact any_eq_of_forall₂ h fun _ _ => Number.equals_congr hn
  cases op with
  | compare comparison =>
      exact any_eq_of_rel hm.number? fun _ _ _ _ hsame => comparison.holds_congr hn hsame
  | notEquals =>
      apply any_eq_of_rel hm.number?
      intro a b _ _ hsame
      exact congrArg not (Number.equals_congr hn hsame)
  | between =>
      apply any_eq_of_rel hm.bounds?
      intro a b _ _ hsame
      exact congrArg₂ and (Number.atMost_congr hsame.1 hn) (Number.atMost_congr hn hsame.2)
  | notBetween =>
      apply any_eq_of_rel hm.bounds?
      intro a b _ _ hsame
      exact congrArg₂ or (Number.less_congr hn hsame.1) (Number.less_congr hsame.2 hn)
  | among => exact any_eq_of_rel hm.numbers? fun ns ns' _ _ => hamong ns ns'
  | notAmong =>
      exact any_eq_of_rel hm.numbers? fun ns ns' _ _ h => congrArg not (hamong ns ns' h)

/-! ## Objects -/

theorem ObjectOperator.holdsOfFields_congr (op : ObjectOperator)
    {fields fields' : List (String × Value)} (hv : Alike (.object fields) (.object fields'))
    {m m' : Value} (hm : Alike m m') : op.holdsOfFields fields m = op.holdsOfFields fields' m' := by
  have hpairs : List.Forall₂ (fun a b => a.1 = b.1 ∧ (a.2 == b.2) = true) fields fields' := by
    cases equalBy_of_beq hv.equal with
    | object h => exact h
  have hkeys : Keyed.keys fields = Keyed.keys fields' := by
    rw [← List.forall₂_eq_eq_eq, Keyed.keys, Keyed.keys, List.forall₂_map_left_iff,
      List.forall₂_map_right_iff]
    exact hpairs.imp fun _ _ h => h.1
  have hvalues : AlikeItems (Keyed.values fields) (Keyed.values fields') := by
    apply alikeItems_of_forall₂
    · exact fun x => hv.left.parts
    · exact fun y => hv.right.parts
    · rw [Keyed.values, Keyed.values, List.forall₂_map_left_iff, List.forall₂_map_right_iff]
      exact hpairs.imp fun _ _ h => h.2
  have hcontains : ∀ key, Keyed.contains key fields = Keyed.contains key fields' :=
    Keyed.contains_eq_of_keys_eq hkeys
  have hempty : fields.isEmpty = fields'.isEmpty := isEmpty_eq_of_length_eq hpairs.length_eq
  cases op with
  | contains => exact congrArg₂ and hm.isSome_object? (contains_congr hv hm)
  | notContains =>
      exact congrArg₂ and hm.isSome_object? (congrArg not (contains_congr hv hm))
  | equals => exact congrArg₂ and hm.isSome_object? (beq_congr hv hm)
  | notEquals => exact congrArg₂ and hm.isSome_object? (congrArg not (beq_congr hv hm))
  | hasKey => simp only [holdsOfFields, Value.string?_congr hm.equal, hcontains]
  | notHasKey => simp only [holdsOfFields, Value.string?_congr hm.equal, hcontains]
  | hasValue => exact isAmong_congr hm hvalues
  | notHasValue => exact congrArg not (isAmong_congr hm hvalues)
  | isEmpty => exact hempty
  | isNotEmpty => exact congrArg not hempty

/-! ## All operators -/

/-- The items of the values match the items of the operands alike, place by place when sorted. -/
def Value.MatchAlike (v v' m m' : Value) : Prop :=
  ∀ xs ys ws ws', v.items? = some xs → v'.items? = some ys → m.items? = some ws →
    m'.items? = some ws' → AlikeItems xs ys → AlikeItems ws ws' →
      sameItems xs ws = sameItems ys ws'

theorem SetOperator.holds_congr (op : SetOperator) {v v' m m' : Value} (hv : Alike v v')
    (hm : Alike m m') (hsame : MatchAlike v v' m m') :
    op.holds v m = op.holds v' m' := by
  have hitems := hv.items
  unfold MatchAlike at hsame
  unfold holds
  generalize v.items? = x at hitems hsame ⊢
  generalize v'.items? = y at hitems hsame ⊢
  cases hitems with
  | none => rfl
  | @some xs ys halike =>
      cases op with
      | ofArray op =>
          apply op.holdsOfItems_congr halike hm
          intro _ ws ws' hws hws'
          exact hsame xs ys ws ws' rfl rfl hws hws' halike
      | has => exact isAmong_congr hm halike
      | notHas => exact congrArg not (isAmong_congr hm halike)

theorem Operator.holds_congr {op : Operator}
    (htype : op.type ∈ [.boolean, .number, .array, .set, .object]) {v v' m m' : Value}
    (hv : Alike v v') (hm : Alike m m') (hsame : MatchAlike v v' m m') (now : Instant) :
    op.holds now v m = op.holds now v' m' := by
  cases op with
  | array op =>
      cases equalBy_of_beq hv.equal with
      | @array xs ys h =>
          have halike : AlikeItems xs ys :=
            alikeItems_of_forall₂ (fun x => hv.left.parts) (fun y => hv.right.parts) h
          apply op.holdsOfItems_congr halike hm
          intro _ ws ws' hws hws'
          exact hsame xs ys ws ws' rfl rfl hws hws' halike
      | _ => rfl
  | boolean op => exact op.holds_congr hv hm
  | number op =>
      cases equalBy_of_beq hv.equal with
      | number h => exact op.holdsOfNumber_congr h hm
      | _ => rfl
  | object op =>
      cases equalBy_of_beq hv.equal with
      | object _ => exact op.holdsOfFields_congr hv hm
      | _ => rfl
  | set op => exact op.holds_congr hv hm hsame
  | date _ | geo _ | map _ | string _ => simp [type] at htype

theorem mem_parts_of_items? {v x : Value} {items : List Value} (h : v.items? = some items)
    (hx : x ∈ items) : x ∈ v.parts := by
  rcases items?_eq_some_iff.mp h with rfl | rfl
  · exact hx
  · exact hx

/--
An operator on booleans, numbers, arrays, sets or objects gives one answer on equal values and
equal operands, in whatever order the members of sets and maps are stored, if the values are
well-formed and their numbers plain.
-/
theorem Operator.holds_eq_of_beq {nan : Number} {v v' m m' : Value}
    (hv : v.WellFormed ∧ v.HasPlainNumbers nan) (hv' : v'.WellFormed ∧ v'.HasPlainNumbers nan)
    (hm : m.WellFormed ∧ m.HasPlainNumbers nan) (hm' : m'.WellFormed ∧ m'.HasPlainNumbers nan)
    (hvv' : (v == v') = true) (hmm' : (m == m') = true) {op : Operator}
    (htype : op.type ∈ [.boolean, .number, .array, .set, .object]) (now : Instant) :
    op.holds now v m = op.holds now v' m' := by
  apply Operator.holds_congr htype ⟨hv.1, hv'.1, hvv'⟩ ⟨hm.1, hm'.1, hmm'⟩
  intro xs ys ws ws' hxs hys hws hws' hitems hexpected
  apply sameItems_congr hitems hexpected
  simp only [List.forall_mem_append]
  exact ⟨⟨⟨fun x hx => hv.2.parts (mem_parts_of_items? hxs hx),
    fun y hy => hv'.2.parts (mem_parts_of_items? hys hy)⟩,
    fun w hw => hm.2.parts (mem_parts_of_items? hws hw)⟩,
    fun w hw => hm'.2.parts (mem_parts_of_items? hws' hw)⟩

theorem Operator.holds_eq_of_beq_of_stored_orders :
    let inner : Value := .set [.null, .number .nan]
    let inner' : Value := .set [.number .nan, .null]
    let v : Value := .set [.boolean true, inner]
    let v' : Value := .set [inner', .boolean true]
    (v == v') = true ∧ (Value.array [inner] == .array [inner']) = true ∧
      ∀ (op : SetOperator) (now : Instant),
        (Operator.set op).holds now v (.array [inner]) =
          (Operator.set op).holds now v' (.array [inner']) := by
  intro inner inner' v v'
  let isOrderly (v : Value) : Prop := v.WellFormed ∧ v.HasPlainNumbers .nan
  have hself : ∀ v : Value, v.number? = none → ∀ n, v = .number n → n.IsPlain .nan := by
    rintro v hnone n rfl
    cases hnone
  have hnull : isOrderly .null :=
    orderly_of_parts trivial (hself _ rfl) (List.forall_mem_nil _)
  have htrue : isOrderly (.boolean true) :=
    orderly_of_parts trivial (hself _ rfl) (List.forall_mem_nil _)
  have hnan : isOrderly (.number .nan) := orderly_number ⟨by decide, fun _ => rfl⟩
  have hset : ∀ x y : Value, isOrderly x → isOrderly y → (x == y) = false →
      isOrderly (.set [x, y]) := by
    intro x y hx hy hne
    apply orderly_of_parts
    · simpa [HasDistinctParts] using hne
    · exact hself _ rfl
    · exact List.forall_mem_cons.mpr ⟨hx, List.forall_mem_singleton.mpr hy⟩
  have hlist : ∀ x : Value, isOrderly x → isOrderly (.array [x]) := by
    intro x hx
    exact orderly_of_parts trivial (hself _ rfl) (List.forall_mem_singleton.mpr hx)
  have hinner : isOrderly inner := hset _ _ hnull hnan rfl
  have hinner' : isOrderly inner' := hset _ _ hnan hnull rfl
  have hvv' : (v == v') = true := by decide
  have hmm' : (Value.array [inner] == .array [inner']) = true := by decide
  refine ⟨hvv', hmm', ?_⟩
  intro op now
  apply Operator.holds_eq_of_beq (hset _ _ htrue hinner rfl) (hset _ _ hinner' htrue rfl)
    (hlist _ hinner) (hlist _ hinner') hvv' hmm'
  show CriterionType.set ∈ _
  decide

end RecordFilter
