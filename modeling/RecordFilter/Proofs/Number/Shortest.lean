import RecordFilter.Proofs.Number.Rounding

/-!
# Shortest decimals read back

The search for a shortest decimal refines the grid until a point of it lies in the rounding
interval.  A grid no coarser than a quarter of the last place has such a point, and the search
gets that far, because the power of ten it starts from is known up to a constant factor.

So the decimal found is covered by the number, and every decimal that is covered, however its
digits are spelt, is read as the number.
-/

namespace RecordFilter

/-! ## Powers of two and of ten -/

theorem tenTo_pos (n : Nat) : 0 < tenTo n :=
  Nat.pow_pos (by decide)

theorem tenTo_cast (n : Nat) : (tenTo n : ℚ) = 10 ^ n := by
  simp [tenTo]

theorem ten_zpow_le_two_zpow {a b : Int} (h : 0 ≤ a ∧ 10 * a ≤ 3 * b ∨ a ≤ 0 ∧ 93 * a ≤ 28 * b) :
    (10 : ℚ) ^ a ≤ 2 ^ b := by
  rcases h with ⟨ha, hle⟩ | ⟨ha, hle⟩
  · apply le_of_pow_le_pow_left₀ (n := 3) (by decide) (by positivity)
    calc ((10 : ℚ) ^ a) ^ 3 = (10 ^ 3) ^ a := by rw [← zpow_natCast, zpow_comm, zpow_natCast]
      _ ≤ (2 ^ 10) ^ a := zpow_le_zpow_left₀ ha (by norm_num) (by norm_num)
      _ = 2 ^ (10 * a) := by rw [zpow_mul]; norm_num
      _ ≤ 2 ^ (b * 3) := zpow_le_zpow_right₀ one_le_two (by omega)
      _ = (2 ^ b) ^ 3 := by rw [zpow_mul]; norm_cast
  · have hinv : ((10 : ℚ) ^ 28)⁻¹ ≤ (2 ^ 93)⁻¹ := by norm_num
    apply le_of_pow_le_pow_left₀ (n := 28) (by decide) (by positivity)
    calc ((10 : ℚ) ^ a) ^ 28 = ((10 ^ 28)⁻¹) ^ (-a) := by
          rw [← zpow_natCast, zpow_comm, zpow_natCast, inv_zpow', neg_neg]
      _ ≤ ((2 ^ 93)⁻¹) ^ (-a) := zpow_le_zpow_left₀ (by omega) (by positivity) hinv
      _ = 2 ^ (93 * a) := by rw [inv_zpow', neg_neg, zpow_mul]; norm_num
      _ ≤ 2 ^ (b * 28) := zpow_le_zpow_right₀ one_le_two (by omega)
      _ = (2 ^ b) ^ 28 := by rw [zpow_mul]; norm_cast

namespace Shortest

/-! ## Points of a grid -/

variable {i : Interval} {binary decimal : Int} {candidate : Nat}

theorem scales_spec (binary decimal : Int) : ∃ k : ℚ, 0 < k ∧
    ((scales binary decimal).1 : ℚ) = k * 2 ^ binary ∧
      ((scales binary decimal).2 : ℚ) = k * 10 ^ decimal := by
  have hsplit : ∀ (base : ℚ) (i : Int), base ≠ 0 →
      base ^ i.toNat = base ^ (-i).toNat * base ^ i := by
    intro base i hbase
    rw [← zpow_natCast, ← zpow_natCast, ← zpow_add₀ hbase]
    congr 1
    omega
  refine ⟨10 ^ (-decimal).toNat * 2 ^ (-binary).toNat, by positivity, ?_, ?_⟩
  · simp only [scales, Nat.shiftLeft_eq]
    push_cast
    rw [tenTo_cast, hsplit 2 binary two_ne_zero, mul_assoc]
  · simp only [scales, Nat.shiftLeft_eq]
    push_cast
    rw [tenTo_cast, hsplit 10 decimal (by norm_num)]
    ring

theorem accepts_iff :
    accepts i binary decimal candidate = true ↔ i.Holds binary (candidate * 10 ^ decimal) := by
  rcases scales_spec binary decimal with ⟨k, hk, hunit, hgrid⟩
  unfold accepts Interval.Holds
  generalize scales binary decimal = fraction at *
  have hlow : ∀ a : Nat, (a : ℚ) * 2 ^ binary ≤ candidate * 10 ^ decimal ↔
      a * fraction.1 ≤ candidate * fraction.2 := by
    intro a
    rw [← mul_le_mul_iff_right₀ hk, mul_left_comm, ← hunit, mul_left_comm, ← hgrid]
    exact_mod_cast Iff.rfl
  have hhigh : ∀ a : Nat, (candidate : ℚ) * 10 ^ decimal ≤ a * 2 ^ binary ↔
      candidate * fraction.2 ≤ a * fraction.1 := by
    intro a
    rw [← mul_le_mul_iff_right₀ hk, mul_left_comm, ← hgrid, mul_left_comm, ← hunit]
    exact_mod_cast Iff.rfl
  dsimp only
  split
  · rw [Bool.and_eq_true, decide_eq_true_eq, decide_eq_true_eq, hlow, hhigh]
  · rw [Bool.and_eq_true, decide_eq_true_eq, decide_eq_true_eq, ← not_le, ← not_le, ← not_le,
      ← not_le, hlow, hhigh]

theorem choose_eq (tie : Tie) (below : Nat) :
    tie.choose below = below ∨ tie.choose below = below + 1 := by
  unfold Tie.choose
  cases tie with
  | larger => exact .inr rfl
  | even =>
      dsimp only
      omega

theorem accepts_of_onGrid? {tie : Tie} (h : onGrid? tie i binary decimal = some candidate) :
    accepts i binary decimal candidate = true := by
  unfold onGrid? at h
  dsimp only at h
  generalize i.centre * (scales binary decimal).1 / (scales binary decimal).2 = below at h
  split at h
  · next hbelow habove =>
      split at h
      · cases h
        exact hbelow
      · cases h
        rcases choose_eq tie below with heq | heq
        · rw [heq]
          exact hbelow
        · rw [heq]
          exact habove
      · cases h
        exact habove
  · next hbelow _ =>
      cases h
      exact hbelow
  · next _ habove =>
      cases h
      exact habove
  · cases h

theorem isSome_onGrid? (tie : Tie) (hlow : i.low + 1 ≤ i.centre) (hhigh : i.centre + 1 ≤ i.high)
    (hfine : (10 : ℚ) ^ decimal ≤ 2 ^ binary) : (onGrid? tie i binary decimal).isSome = true := by
  rcases scales_spec binary decimal with ⟨k, hk, hunit, hgrid⟩
  have hle : (scales binary decimal).2 ≤ (scales binary decimal).1 := by
    have : ((scales binary decimal).2 : ℚ) ≤ (scales binary decimal).1 := by
      rw [hunit, hgrid]
      gcongr
    exact_mod_cast this
  have hpos : 0 < (scales binary decimal).2 := by
    have : (0 : ℚ) < (scales binary decimal).2 := by
      rw [hgrid]
      positivity
    exact_mod_cast this
  have haccepts : accepts i binary decimal
      (i.centre * (scales binary decimal).1 / (scales binary decimal).2) = true := by
    unfold accepts
    generalize scales binary decimal = fraction at *
    have hfloor := Nat.div_mul_le_self (i.centre * fraction.1) fraction.2
    have hrest := Nat.lt_div_mul_add hpos (a := i.centre * fraction.1)
    have hlowUnit := Nat.mul_le_mul_right fraction.1 hlow
    have hhighUnit := Nat.mul_le_mul_right fraction.1 hhigh
    rw [Nat.succ_mul] at hlowUnit hhighUnit
    dsimp only
    split
    · rw [Bool.and_eq_true, decide_eq_true_eq, decide_eq_true_eq]
      omega
    · rw [Bool.and_eq_true, decide_eq_true_eq, decide_eq_true_eq]
      omega
  unfold onGrid?
  dsimp only
  rw [haccepts]
  cases accepts i binary decimal
      (i.centre * (scales binary decimal).1 / (scales binary decimal).2 + 1) with
  | false => rfl
  | true =>
      dsimp only
      split <;> rfl

/-! ## The search -/

theorem accepts_refine {tie : Tie} {steps : Nat}
    (h : ∃ k < steps, (onGrid? tie i binary (decimal - k)).isSome = true) :
    accepts i binary (refine tie i binary steps decimal).2
      (refine tie i binary steps decimal).1 = true := by
  induction steps generalizing decimal with
  | zero =>
      rcases h with ⟨k, hk, -⟩
      exact absurd hk (Nat.not_lt_zero k)
  | succ steps ih =>
      unfold refine
      cases hgrid : onGrid? tie i binary decimal with
      | some digits => exact accepts_of_onGrid? hgrid
      | none =>
          apply ih
          rcases h with ⟨k, hk, hsome⟩
          cases k with
          | zero =>
              rw [Nat.cast_zero, sub_zero, hgrid] at hsome
              cases hsome
          | succ k =>
              refine ⟨k, by omega, ?_⟩
              rw [sub_sub, add_comm (1 : ℤ)]
              exact_mod_cast hsome

end Shortest

namespace Number

open Shortest

variable {n : Number}

theorem ten_zpow_ceiling_le (hfinite : n.IsFinite) (hn : 0 < n.significand) :
    (10 : ℚ) ^ (ceiling n.significand n.exponent - (23 : Nat)) ≤ 2 ^ (n.exponent - 2) := by
  have hlog : n.significand.log2 < 53 := (Nat.log2_lt (by omega)).mpr n.significand_lt
  have hleast := n.least_le_exponent
  have hgreatest := hfinite.exponent_le
  apply ten_zpow_le_two_zpow
  unfold ceiling
  omega

/-- The shortest decimal is one that is rounded to the number. -/
theorem covers_shortest (tie : Tie) (hfinite : n.IsFinite) (hn : 0 < n.significand) :
    n.Covers ((n.shortest tie).1 * 10 ^ (n.shortest tie).2) := by
  apply accepts_iff.mp
  apply accepts_refine
  refine ⟨23, by decide, isSome_onGrid? tie ?_ ?_ (ten_zpow_ceiling_le hfinite hn)⟩
  · unfold interval
    dsimp only
    split <;> omega
  · exact Nat.add_le_add_left one_le_two _

/-! ## Decimals that are covered -/

theorem Covers.bounds {x : ℚ} (h : n.Covers x) (hfinite : n.IsFinite) (hn : 0 < n.significand) :
    2 ^ (-1075 : ℤ) ≤ x ∧ x ≤ 2 ^ (1024 : ℤ) := by
  have hrounds := h.roundsTo hn
  have hscale : x = x * 2 ^ (-n.exponent) * 2 ^ n.exponent := by
    rw [mul_assoc, ← zpow_add₀ two_ne_zero, neg_add_cancel, zpow_zero, mul_one]
  generalize x * 2 ^ (-n.exponent) = y at *
  have hlow : (2 : ℚ) ^ (-1 : ℤ) ≤ y := by
    have : (1 : ℚ) ≤ n.significand := by exact_mod_cast hn
    rw [zpow_neg_one]
    linarith [hrounds.low]
  have hhigh : y ≤ 2 ^ (53 : ℤ) := by
    have : (n.significand : ℚ) + 1 ≤ 2 ^ (53 : ℤ) := by exact_mod_cast n.significand_lt
    linarith [hrounds.high]
  rw [hscale]
  constructor
  · calc (2 : ℚ) ^ (-1075 : ℤ) = 2 ^ (-1 : ℤ) * 2 ^ (-1074 : ℤ) := by
          rw [← zpow_add₀ two_ne_zero]; rfl
      _ ≤ y * 2 ^ n.exponent :=
          mul_le_mul hlow (zpow_le_zpow_right₀ one_le_two n.least_le_exponent) (by positivity)
            (hlow.trans' (by positivity))
  · calc y * 2 ^ n.exponent ≤ 2 ^ (53 : ℤ) * 2 ^ (971 : ℤ) :=
          mul_le_mul hhigh (zpow_le_zpow_right₀ one_le_two hfinite.exponent_le) (by positivity)
            (by positivity)
      _ = 2 ^ (1024 : ℤ) := by rw [← zpow_add₀ two_ne_zero]; rfl

theorem digits_lt (digits : Nat) : (digits : ℚ) < 10 ^ (digits.log2 / 3 + 1 : ℤ) := by
  have hlog : digits < 2 ^ (digits.log2 + 1) := Nat.lt_log2_self
  calc (digits : ℚ) < 2 ^ (digits.log2 + 1) := by exact_mod_cast hlog
    _ ≤ 2 ^ (3 * (digits.log2 / 3 + 1)) := pow_le_pow_right₀ one_le_two (by omega)
    _ = 8 ^ (digits.log2 / 3 + 1) := by rw [pow_mul]; norm_num
    _ ≤ 10 ^ (digits.log2 / 3 + 1) := pow_le_pow_left₀ (by norm_num) (by norm_num) _
    _ = 10 ^ (digits.log2 / 3 + 1 : ℤ) := by norm_cast

theorem digits_pos_of_covers {digits : Nat} {power : Int} (hfinite : n.IsFinite)
    (hn : 0 < n.significand) (h : n.Covers (digits * 10 ^ power)) : 0 < digits := by
  have hvalue : (0 : ℚ) < digits * 10 ^ power :=
    (h.bounds hfinite hn).1.trans_lt' (by positivity)
  rcases Nat.eq_zero_or_pos digits with rfl | hpos
  · rw [Nat.cast_zero, zero_mul] at hvalue
    exact absurd hvalue (lt_irrefl 0)
  · exact hpos

theorem power_le_of_covers {digits : Nat} {power : Int} (hfinite : n.IsFinite)
    (hn : 0 < n.significand) (h : n.Covers (digits * 10 ^ power)) : power ≤ 400 := by
  by_contra hlarge
  have hone : (1 : ℚ) ≤ digits := by exact_mod_cast digits_pos_of_covers hfinite hn h
  have hpower : (10 : ℚ) ^ (400 : ℤ) ≤ 10 ^ power :=
    zpow_le_zpow_right₀ (by norm_num) (by omega)
  have hle : (10 : ℚ) ^ power ≤ digits * 10 ^ power :=
    le_mul_of_one_le_left (by positivity) hone
  have hlt : (2 : ℚ) ^ (1024 : ℤ) < 10 ^ (400 : ℤ) := by
    calc (2 : ℚ) ^ (1024 : ℤ) ≤ 2 ^ (3 * 400 : ℤ) := zpow_le_zpow_right₀ one_le_two (by decide)
      _ = (2 ^ (3 : ℤ)) ^ (400 : ℤ) := zpow_mul 2 3 400
      _ < 10 ^ (400 : ℤ) := zpow_lt_zpow_left₀ (by decide) (by positivity) (by norm_num)
  have hhigh := (h.bounds hfinite hn).2
  exact absurd (hlt.trans_le (hpower.trans (hle.trans hhigh))) (lt_irrefl _)

theorem le_power_of_covers {digits : Nat} {power : Int} (hfinite : n.IsFinite)
    (hn : 0 < n.significand) (h : n.Covers (digits * 10 ^ power)) :
    -400 ≤ power + (digits.log2 / 3 + 1 : ℤ) := by
  by_contra hsmall
  have hlt : (digits * 10 ^ power : ℚ) < 10 ^ (-400 : ℤ) := by
    calc (digits * 10 ^ power : ℚ) < 10 ^ (digits.log2 / 3 + 1 : ℤ) * 10 ^ power := by
          gcongr
          exact digits_lt digits
      _ = 10 ^ (digits.log2 / 3 + 1 + power : ℤ) := by rw [← zpow_add₀ (by norm_num)]
      _ ≤ 10 ^ (-400 : ℤ) := zpow_le_zpow_right₀ (by norm_num) (by omega)
  have hle : (10 : ℚ) ^ (-400 : ℤ) ≤ 2 ^ (-1075 : ℤ) := ten_zpow_le_two_zpow (by omega)
  have hlow := (h.bounds hfinite hn).1
  exact absurd (hlt.trans_le (hle.trans hlow)) (lt_irrefl _)

theorem ofDecimal_of_covers {digits : Nat} {power : Int} (hfinite : n.IsFinite)
    (hn : 0 < n.significand) (h : n.Covers (digits * 10 ^ power)) :
    ofDecimal n.isNegative digits power = n := by
  have hdigits := digits_pos_of_covers hfinite hn h
  have hlarge := power_le_of_covers hfinite hn h
  have hsmall := le_power_of_covers hfinite hn h
  unfold ofDecimal
  dsimp only
  rw [if_neg (Nat.ne_of_gt hdigits), if_neg (by omega), if_neg (by omega)]
  split
  · next hpower =>
      lift power to ℕ using hpower
      apply ofQuotient_of_covers one_pos (Nat.mul_pos hdigits (tenTo_pos _)) hfinite hn
      rw [Int.toNat_natCast, Nat.cast_one, div_one, Nat.cast_mul, tenTo_cast, ← zpow_natCast]
      exact h
  · next hpower =>
      obtain ⟨k, rfl⟩ : ∃ k : ℕ, power = -k := ⟨(-power).toNat, by omega⟩
      apply ofQuotient_of_covers (tenTo_pos _) hdigits hfinite hn
      rw [neg_neg, Int.toNat_natCast, tenTo_cast, div_eq_mul_inv, ← zpow_natCast, ← zpow_neg]
      exact h

theorem ofDecimal_zero (h : n.isZero = true) (power : Int) :
    ofDecimal n.isNegative 0 power = n := by
  have hmagnitude : n.magnitude = 0 := eq_of_beq h
  unfold ofDecimal
  dsimp only
  rw [if_pos rfl, ← hmagnitude, ofMagnitude_magnitude]

/-! ## The range -/

theorem roundMagnitude_le (num den : Nat) : roundMagnitude num den ≤ infiniteMagnitude := by
  unfold roundMagnitude
  split
  · exact Nat.zero_le _
  · exact Nat.min_le_right _ _

theorem ofDecimal_eq_ofMagnitude (negative : Bool) (digits : Nat) (power : Int) :
    ofDecimal negative digits power =
      ofMagnitude negative (ofDecimal false digits power).magnitude := by
  have hmagnitude : ∃ magnitude < signBit, ∀ negative,
      ofDecimal negative digits power = ofMagnitude negative magnitude := by
    unfold ofDecimal
    dsimp only
    split
    · exact ⟨0, by decide, fun _ => rfl⟩
    split
    · exact ⟨infiniteMagnitude, by decide, fun _ => rfl⟩
    split
    · exact ⟨0, by decide, fun _ => rfl⟩
    split
    · exact ⟨_, (roundMagnitude_le _ _).trans_lt (by decide), fun _ => rfl⟩
    · exact ⟨_, (roundMagnitude_le _ _).trans_lt (by decide), fun _ => rfl⟩
  obtain ⟨magnitude, hlt, heq⟩ := hmagnitude
  rw [heq, heq, magnitude_ofMagnitude false hlt]

theorem isFinite_ofQuotient {negative : Bool} {num den : Nat}
    (h : (ofQuotient negative num den).isInfinite = false) :
    (ofQuotient negative num den).IsFinite := by
  have hle := roundMagnitude_le num den
  have hlt : roundMagnitude num den < signBit := hle.trans_lt (by decide)
  unfold ofQuotient isInfinite at h
  unfold ofQuotient IsFinite
  rw [magnitude_ofMagnitude negative hlt] at h ⊢
  exact lt_of_le_of_ne hle (beq_eq_false_iff_ne.mp h)

end Number
end RecordFilter
