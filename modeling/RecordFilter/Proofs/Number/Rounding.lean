import Mathlib.Algebra.Order.Field.Power
import Mathlib.Algebra.Order.Field.Rat
import Mathlib.Tactic.FieldSimp
import Mathlib.Tactic.Linarith
import Mathlib.Tactic.NormNum
import Mathlib.Tactic.Positivity
import Mathlib.Tactic.Ring
import RecordFilter.Number.Shortest

/-!
# Rounding to the nearest number

A finite number is its significand times a power of two.  A quotient is rounded by finding the
exponent at which its significand has the right size, and rounding what is left to a natural.

The main statement is that a quotient which lies in the rounding interval of a number is rounded
to that number.  The lower end of the interval of a power of two is nearer than the upper one:
below it the quotient is read at the next smaller exponent, and the rounding carries.
-/

namespace RecordFilter

namespace Number

/-! ## Words and their parts -/

theorem ofMagnitude_magnitude (n : Number) : ofMagnitude n.isNegative n.magnitude = n := by
  have hlt : n.bits.toNat < 2 * signBit := n.bits.toNat_lt
  have hparts : n.magnitude % signBit + (if n.isNegative then signBit else 0) = n.bits.toNat := by
    unfold magnitude isNegative
    rw [Nat.mod_mod]
    by_cases hnegative : signBit ≤ n.bits.toNat
    · rw [if_pos (decide_eq_true hnegative)]
      unfold signBit at *
      omega
    · rw [if_neg (by simpa using hnegative)]
      unfold signBit at *
      omega
  rw [ofMagnitude, hparts, UInt64.ofNat_toNat]

section OfMagnitude

variable (negative : Bool) {magnitude : Nat} (h : magnitude < signBit)
include h

theorem toNat_ofMagnitude :
    (ofMagnitude negative magnitude).bits.toNat =
      magnitude + if negative then signBit else 0 := by
  show (UInt64.ofNat _).toNat = _
  rw [UInt64.toNat_ofNat', Nat.mod_eq_of_lt h]
  apply Nat.mod_eq_of_lt
  have hbits : 2 * signBit = 2 ^ 64 := by decide
  split <;> omega

theorem magnitude_ofMagnitude : (ofMagnitude negative magnitude).magnitude = magnitude := by
  unfold Number.magnitude
  rw [toNat_ofMagnitude negative h]
  cases negative with
  | true => rw [if_pos rfl, Nat.add_mod_right, Nat.mod_eq_of_lt h]
  | false => rw [if_neg Bool.false_ne_true, Nat.add_zero, Nat.mod_eq_of_lt h]

end OfMagnitude

/-! ## Significand and exponent -/

variable (n : Number)

def IsFinite : Prop :=
  n.magnitude < infiniteMagnitude

instance : Decidable n.IsFinite :=
  inferInstanceAs (Decidable (_ < _))

theorem least_le_exponent : -1074 ≤ n.exponent := by
  unfold exponent leadingBit
  split <;> omega

theorem significand_lt : n.significand < 2 * leadingBit := by
  unfold significand leadingBit
  split <;> omega

theorem exponent_eq_or_le_significand : n.exponent = -1074 ∨ leadingBit ≤ n.significand := by
  unfold exponent significand
  split
  · exact .inl rfl
  · exact .inr (Nat.le_add_right _ _)

theorem leadingBit_cast : (leadingBit : ℚ) = 2 ^ 52 := by
  norm_num [leadingBit]

theorem magnitude_eq : n.magnitude = (n.exponent + 1074).toNat * leadingBit + n.significand := by
  unfold exponent significand leadingBit
  split <;> omega

variable {n}

theorem isFinite_iff : n.IsFinite ↔ n.isNaN = false ∧ n.isInfinite = false := by
  unfold IsFinite isNaN isInfinite
  rw [decide_eq_false_iff_not, beq_eq_false_iff_ne]
  omega

theorem IsFinite.exponent_le (h : n.IsFinite) : n.exponent ≤ 971 := by
  unfold IsFinite infiniteMagnitude at h
  unfold exponent leadingBit
  split <;> omega

theorem significand_eq_zero_iff : n.significand = 0 ↔ n.isZero = true := by
  unfold significand isZero leadingBit
  rw [beq_iff_eq]
  split <;> omega

/-! ## Scaled quotients -/

section Quotients

variable {num den : Nat} (hden : 0 < den)
include hden

theorem scaled_spec (num : Nat) (shift : Int) :
    0 < (scaled num den shift).2 ∧
      ((scaled num den shift).1 : ℚ) / (scaled num den shift).2 = num / den * 2 ^ shift := by
  unfold scaled
  split
  · next hshift =>
      lift shift to ℕ using hshift
      refine ⟨hden, ?_⟩
      simp only [Nat.shiftLeft_eq, Int.toNat_natCast, zpow_natCast]
      push_cast
      ring
  · next hshift =>
      obtain ⟨k, rfl⟩ : ∃ k : ℕ, shift = -k := ⟨(-shift).toNat, by omega⟩
      simp only [Nat.shiftLeft_eq, neg_neg, Int.toNat_natCast, zpow_neg, zpow_natCast]
      refine ⟨Nat.mul_pos hden (Nat.two_pow_pos k), ?_⟩
      push_cast
      rw [← div_eq_mul_inv, div_div]

/-- The natural `k` is nearest to `x`, and of two that are equally near it is the even one. -/
structure RoundsTo (x : ℚ) (k : Nat) : Prop where
  low : (k : ℚ) - 1 / 2 ≤ x
  high : x ≤ k + 1 / 2
  tie : k % 2 = 1 → (k : ℚ) - 1 / 2 < x ∧ x < k + 1 / 2

theorem RoundsTo.mul_bounds {k : Nat} (h : RoundsTo (num / den) k) :
    2 * k * den ≤ 2 * num + den ∧ 2 * num ≤ (2 * k + 1) * den ∧
      (k % 2 = 1 → 2 * k * den < 2 * num + den ∧ 2 * num < (2 * k + 1) * den) := by
  have hpos : (0 : ℚ) < den := by exact_mod_cast hden
  refine ⟨?_, ?_, ?_⟩
  · have hlow := h.low
    rw [sub_le_iff_le_add, ← sub_le_iff_le_add, le_div_iff₀ hpos] at hlow
    have : (2 * k * den : ℚ) ≤ 2 * num + den := by linarith
    exact_mod_cast this
  · have hhigh := h.high
    rw [div_le_iff₀ hpos] at hhigh
    have : (2 * num : ℚ) ≤ (2 * k + 1) * den := by linarith
    exact_mod_cast this
  · intro hodd
    have htie := h.tie hodd
    rw [lt_div_iff₀ hpos, div_lt_iff₀ hpos] at htie
    have hlow : (2 * k * den : ℚ) < 2 * num + den := by linarith
    have hhigh : (2 * num : ℚ) < (2 * k + 1) * den := by linarith
    exact ⟨by exact_mod_cast hlow, by exact_mod_cast hhigh⟩

theorem roundQuotient_eq {k : Nat} (h : RoundsTo (num / den) k) : roundQuotient num den = k := by
  obtain ⟨hlow, hhigh, htie⟩ := h.mul_bounds hden
  unfold roundQuotient
  have hnum : num = num / den * den + num % den := (Nat.div_add_mod' num den).symm
  have hrest : num % den < den := Nat.mod_lt num hden
  generalize num / den = q at *
  generalize num % den = r at *
  subst hnum
  dsimp only
  have hge : q ≤ k := by
    by_contra hlt
    have := Nat.mul_le_mul_right den (Nat.lt_of_not_le hlt)
    rw [Nat.succ_mul] at this
    linarith
  have hle : k ≤ q + 1 := by
    by_contra hlt
    have := Nat.mul_le_mul_right den (Nat.lt_of_not_le hlt)
    rw [Nat.succ_mul, Nat.succ_mul] at this
    linarith
  rcases Nat.le_iff_lt_or_eq.mp hle with hlt | rfl
  · obtain rfl : k = q := by omega
    have hhalf : 2 * r ≤ den := by linarith
    have heven : 2 * r = den → k % 2 = 0 := by
      intro heq
      by_contra hodd
      have := (htie (by omega)).2
      linarith
    split
    · rfl
    · split
      · omega
      · have := heven (by omega)
        omega
  · have hhalf : den ≤ 2 * r := by linarith
    have heven : 2 * r = den → q % 2 = 1 := by
      intro heq
      by_contra hodd
      have := (htie (by omega)).1
      linarith
    split
    · omega
    · split
      · rfl
      · have := heven (by omega)
        omega

/-! ## The exponent of a quotient -/

structure ReadAt (x : ℚ) (e : Int) : Prop where
  least : -1074 ≤ e
  below : x < 2 ^ (e + 53)
  above : e = -1074 ∨ 2 ^ (e + 52) ≤ x

omit hden in
theorem readAt_iff {x : ℚ} {e : Int} : ReadAt x e ↔
    -1074 ≤ e ∧ x * 2 ^ (-e) < 2 ^ 53 ∧ (e = -1074 ∨ 2 ^ 52 ≤ x * 2 ^ (-e)) := by
  have hpos : (0 : ℚ) < 2 ^ e := by positivity
  have hpower : ∀ k : ℕ, (2 : ℚ) ^ (e + k) = 2 ^ k * 2 ^ e := by
    intro k
    rw [add_comm, zpow_add₀ two_ne_zero, zpow_natCast]
  have hbelow : x < 2 ^ (e + 53) ↔ x * 2 ^ (-e) < 2 ^ 53 := by
    rw [zpow_neg, ← div_eq_mul_inv, div_lt_iff₀ hpos, ← hpower 53, Nat.cast_ofNat]
  have habove : 2 ^ (e + 52) ≤ x ↔ 2 ^ 52 ≤ x * 2 ^ (-e) := by
    rw [zpow_neg, ← div_eq_mul_inv, le_div_iff₀ hpos, ← hpower 52, Nat.cast_ofNat]
  constructor
  · rintro ⟨hleast, h, h'⟩
    exact ⟨hleast, hbelow.mp h, h'.imp_right habove.mp⟩
  · rintro ⟨hleast, h, h'⟩
    exact ⟨hleast, hbelow.mpr h, h'.imp_right habove.mpr⟩

omit hden in
theorem ReadAt.unique {x : ℚ} {e e' : Int} (h : ReadAt x e) (h' : ReadAt x e') : e = e' := by
  have hle : ∀ {e e' : Int}, ReadAt x e → ReadAt x e' → e ≤ e' := by
    intro e e' h h'
    rcases h.above with hleast | habove
    · exact hleast.le.trans h'.least
    · have hlt := (zpow_lt_zpow_iff_right₀ one_lt_two).mp (habove.trans_lt h'.below)
      omega
  exact le_antisymm (hle h h') (hle h' h)

omit hden in
theorem log2_bounds {n : Nat} (h : 0 < n) :
    (2 : ℚ) ^ (n.log2 : ℤ) ≤ n ∧ (n : ℚ) < 2 ^ (n.log2 + 1 : ℤ) := by
  constructor
  · exact_mod_cast Nat.log2_self_le (Nat.ne_of_gt h)
  · exact_mod_cast Nat.lt_log2_self (n := n)

theorem quotient_bounds (hnum : 0 < num) :
    (2 : ℚ) ^ ((num.log2 : ℤ) - den.log2 - 1) < num / den ∧
      (num / den : ℚ) < 2 ^ ((num.log2 : ℤ) - den.log2 + 1) := by
  have hpos : (0 : ℚ) < den := by exact_mod_cast hden
  have htwo : (2 : ℚ) ≠ 0 := two_ne_zero
  rcases log2_bounds hnum with ⟨hnumLow, hnumHigh⟩
  rcases log2_bounds hden with ⟨hdenLow, hdenHigh⟩
  constructor
  · rw [lt_div_iff₀ hpos]
    calc (2 : ℚ) ^ ((num.log2 : ℤ) - den.log2 - 1) * den
        < 2 ^ ((num.log2 : ℤ) - den.log2 - 1) * 2 ^ (den.log2 + 1 : ℤ) := by gcongr
      _ = 2 ^ (num.log2 : ℤ) := by rw [← zpow_add₀ htwo]; congr 1; ring
      _ ≤ num := hnumLow
  · rw [div_lt_iff₀ hpos]
    calc (num : ℚ) < 2 ^ (num.log2 + 1 : ℤ) := hnumHigh
      _ = 2 ^ ((num.log2 : ℤ) - den.log2 + 1) * 2 ^ (den.log2 : ℤ) := by
          rw [← zpow_add₀ htwo]; congr 1; ring
      _ ≤ 2 ^ ((num.log2 : ℤ) - den.log2 + 1) * den := by gcongr

omit hden in
theorem readAt_max {x : ℚ} {e : Int} (hbelow : x < 2 ^ (e + 53)) (habove : 2 ^ (e + 52) ≤ x) :
    ReadAt x (max e (-1074)) := by
  rcases le_total (-1074) e with hle | hle
  · rw [max_eq_left hle]
    exact ⟨hle, hbelow, .inr habove⟩
  · rw [max_eq_right hle]
    refine ⟨le_rfl, ?_, .inl rfl⟩
    calc x < 2 ^ (e + 53) := hbelow
      _ ≤ 2 ^ (-1074 + 53 : ℤ) := zpow_le_zpow_right₀ one_le_two (by omega)

theorem readAt_quotientExponent (hnum : 0 < num) :
    ReadAt (num / den) (quotientExponent num den) := by
  have htwo : (2 : ℚ) ≠ 0 := two_ne_zero
  rcases quotient_bounds hden hnum with ⟨hlow, hhigh⟩
  unfold quotientExponent
  dsimp only
  generalize hguess : (num.log2 : ℤ) - den.log2 - 53 = guess
  rcases scaled_spec hden num (-guess) with ⟨hscaled, hvalue⟩
  generalize scaled num den (-guess) = fraction at *
  have hscaledPos : (0 : ℚ) < fraction.2 := by exact_mod_cast hscaled
  have hcarries : fraction.1 / fraction.2 < 2 * leadingBit ↔
      (num / den : ℚ) < 2 ^ (guess + 53) := by
    rw [Nat.div_lt_iff_lt_mul hscaled]
    have hcast : fraction.1 < 2 * leadingBit * fraction.2 ↔
        (fraction.1 : ℚ) / fraction.2 < 2 ^ 53 := by
      rw [div_lt_iff₀ hscaledPos]
      have hbit : ((2 * leadingBit : Nat) : ℚ) = 2 ^ 53 := by norm_num [leadingBit]
      rw [← hbit]
      exact_mod_cast Iff.rfl
    rw [hcast, hvalue, zpow_neg, ← div_eq_mul_inv, div_lt_iff₀ (by positivity), zpow_add₀ htwo]
    rw [mul_comm]
    norm_num
  refine readAt_max ?_ ?_
  · split
    · next hlt => exact hcarries.mp hlt
    · refine hhigh.trans_le (zpow_le_zpow_right₀ one_le_two (by omega))
  · split
    · exact (zpow_le_zpow_right₀ one_le_two (by omega)).trans hlow.le
    · next hge =>
        have hle := not_lt.mp (mt hcarries.mpr hge)
        exact (zpow_le_zpow_right₀ one_le_two (by omega)).trans hle

theorem roundMagnitude_eq (hnum : 0 < num) {e : Int} (he : ReadAt (num / den) e) {k : Nat}
    (hk : RoundsTo (num / den * 2 ^ (-e)) k) :
    roundMagnitude num den = min ((e + 1074).toNat * leadingBit + k) infiniteMagnitude := by
  have hexponent : quotientExponent num den = e := (readAt_quotientExponent hden hnum).unique he
  rcases scaled_spec hden num (-e) with ⟨hscaled, hvalue⟩
  unfold roundMagnitude
  rw [if_neg (Nat.ne_of_gt hnum), hexponent]
  dsimp only
  rw [roundQuotient_eq hscaled (hvalue ▸ hk)]

end Quotients

end Number

/-! ## Rounding intervals -/

namespace Shortest

def Interval.Holds (i : Interval) (unit : Int) (x : ℚ) : Prop :=
  if i.closed then i.low * 2 ^ unit ≤ x ∧ x ≤ i.high * 2 ^ unit
  else i.low * 2 ^ unit < x ∧ x < i.high * 2 ^ unit

end Shortest

namespace Number

/-- The rationals that are rounded to the magnitude of a number. -/
def Covers (n : Number) (x : ℚ) : Prop :=
  (Shortest.interval n.significand n.exponent).Holds (n.exponent - 2) x

/-- A power of two whose lower neighbour is read at a smaller exponent. -/
def IsBoundary (n : Number) : Prop :=
  n.significand = leadingBit ∧ -1074 < n.exponent

instance (n : Number) : Decidable n.IsBoundary :=
  inferInstanceAs (Decidable (_ ∧ _))

variable {n : Number} {x : ℚ}

theorem covers_iff : n.Covers x ↔
    let i := Shortest.interval n.significand n.exponent
    let y := x * 2 ^ (-n.exponent)
    if i.closed then i.low / 4 ≤ y ∧ y ≤ i.high / 4 else i.low / 4 < y ∧ y < i.high / 4 := by
  have hpos : (0 : ℚ) < 2 ^ n.exponent := by positivity
  have hquarter : (2 : ℚ) ^ (n.exponent - 2) = 2 ^ n.exponent / 4 := by
    rw [zpow_sub₀ two_ne_zero]
    norm_num
  unfold Covers Shortest.Interval.Holds
  dsimp only
  rw [hquarter, zpow_neg, ← div_eq_mul_inv, div_le_div_iff₀ (by norm_num) hpos,
    div_le_div_iff₀ hpos (by norm_num), div_lt_div_iff₀ (by norm_num) hpos,
    div_lt_div_iff₀ hpos (by norm_num), mul_div_assoc', mul_div_assoc',
    div_le_iff₀ (by norm_num), le_div_iff₀ (by norm_num), div_lt_iff₀ (by norm_num),
    lt_div_iff₀ (by norm_num)]

theorem low_interval (hn : 0 < n.significand) :
    ((Shortest.interval n.significand n.exponent).low : ℚ) / 4 =
      n.significand - if n.IsBoundary then 1 / 4 else 1 / 2 := by
  unfold Shortest.interval
  dsimp only
  by_cases hboundary : n.IsBoundary
  · rw [if_pos hboundary, if_pos (show _ ∧ _ from hboundary), Nat.cast_sub (by omega)]
    push_cast
    ring
  · rw [if_neg hboundary, if_neg (show ¬(_ ∧ _) from hboundary), Nat.cast_sub (by omega)]
    push_cast
    ring

theorem high_interval :
    ((Shortest.interval n.significand n.exponent).high : ℚ) / 4 = n.significand + 1 / 2 := by
  unfold Shortest.interval
  push_cast
  ring

theorem Covers.roundsTo (h : n.Covers x) (hn : 0 < n.significand) :
    RoundsTo (x * 2 ^ (-n.exponent)) n.significand := by
  have hwidth : (if n.IsBoundary then 1 / 4 else 1 / 2 : ℚ) ≤ 1 / 2 := by
    split <;> norm_num
  rw [covers_iff] at h
  dsimp only at h
  rw [low_interval hn, high_interval] at h
  generalize x * 2 ^ (-n.exponent) = y at *
  split at h
  · next heven =>
      refine ⟨by linarith [h.1], h.2, ?_⟩
      intro hodd
      have hzero : n.significand % 2 = 0 := eq_of_beq heven
      omega
  · exact ⟨by linarith [h.1], h.2.le, fun _ => ⟨by linarith [h.1], h.2⟩⟩

theorem Covers.boundary_le (h : n.Covers x) (hboundary : n.IsBoundary) :
    (leadingBit : ℚ) - 1 / 4 ≤ x * 2 ^ (-n.exponent) := by
  have hpos : 0 < n.significand := by
    rw [hboundary.1]
    decide
  rw [covers_iff] at h
  dsimp only at h
  rw [low_interval hpos, high_interval, if_pos hboundary, hboundary.1] at h
  split at h
  · exact h.1
  · exact h.1.le

theorem Covers.readAt (h : n.Covers x) (hn : 0 < n.significand)
    (hplain : n.IsBoundary → leadingBit ≤ x * 2 ^ (-n.exponent)) : ReadAt x n.exponent := by
  have hrounds := h.roundsTo hn
  rw [readAt_iff]
  generalize x * 2 ^ (-n.exponent) = y at *
  refine ⟨least_le_exponent n, ?_, ?_⟩
  · have hlt : (n.significand : ℚ) + 1 ≤ 2 ^ 53 := by
      have : n.significand + 1 ≤ 2 ^ 53 := significand_lt n
      exact_mod_cast this
    linarith [hrounds.high]
  · rw [← leadingBit_cast]
    rcases exponent_eq_or_le_significand n with hleast | hle
    · exact .inl hleast
    rcases Nat.eq_or_lt_of_le hle with heq | hlt
    · rcases (least_le_exponent n).eq_or_lt with hleast | hexponent
      · exact .inl hleast.symm
      · exact .inr (hplain ⟨heq.symm, hexponent⟩)
    · have : (leadingBit : ℚ) + 1 ≤ n.significand := by exact_mod_cast hlt
      right
      linarith [hrounds.low]

theorem Covers.readAt_below (h : n.Covers x) (hboundary : n.IsBoundary)
    (hbelow : x * 2 ^ (-n.exponent) < leadingBit) :
    ReadAt x (n.exponent - 1) ∧ RoundsTo (x * 2 ^ (-(n.exponent - 1))) (2 * leadingBit) := by
  have hclose := h.boundary_le hboundary
  have hexponent := hboundary.2
  have hdouble : x * 2 ^ (-(n.exponent - 1)) = x * 2 ^ (-n.exponent) * 2 := by
    rw [mul_assoc, neg_sub, sub_eq_add_neg, add_comm, zpow_add₀ two_ne_zero, zpow_one]
  rw [readAt_iff, hdouble]
  generalize x * 2 ^ (-n.exponent) = y at *
  constructor
  · rw [leadingBit_cast] at hbelow hclose
    exact ⟨by omega, by linarith, .inr (by linarith)⟩
  · refine ⟨?_, ?_, fun hodd => absurd hodd (by omega)⟩
    · push_cast
      linarith
    · push_cast
      linarith

/-- A quotient that a number covers is rounded to the number. -/
theorem roundMagnitude_of_covers {num den : Nat} (hden : 0 < den) (hnum : 0 < num)
    (hfinite : n.IsFinite) (hn : 0 < n.significand) (h : n.Covers (num / den)) :
    roundMagnitude num den = n.magnitude := by
  by_cases hplain : n.IsBoundary → (leadingBit : ℚ) ≤ num / den * 2 ^ (-n.exponent)
  · rw [roundMagnitude_eq hden hnum (h.readAt hn hplain) (h.roundsTo hn), ← magnitude_eq]
    exact Nat.min_eq_left hfinite.le
  · push Not at hplain
    obtain ⟨hboundary, hbelow⟩ := hplain
    obtain ⟨hread, hrounds⟩ := h.readAt_below hboundary hbelow
    have hmagnitude :
        (n.exponent - 1 + 1074).toNat * leadingBit + 2 * leadingBit = n.magnitude := by
      rw [magnitude_eq n, hboundary.1, ← Nat.add_mul, ← Nat.succ_mul]
      congr 1
      have hexponent := hboundary.2
      omega
    rw [roundMagnitude_eq hden hnum hread hrounds, hmagnitude]
    exact Nat.min_eq_left hfinite.le

theorem ofQuotient_of_covers {num den : Nat} (hden : 0 < den) (hnum : 0 < num)
    (hfinite : n.IsFinite) (hn : 0 < n.significand) (h : n.Covers (num / den)) :
    ofQuotient n.isNegative num den = n := by
  rw [ofQuotient, roundMagnitude_of_covers hden hnum hfinite hn h, ofMagnitude_magnitude]

theorem covers_self (hn : 0 < n.significand) : n.Covers (n.significand * 2 ^ n.exponent) := by
  rw [covers_iff]
  dsimp only
  rw [low_interval hn, high_interval, mul_assoc, ← zpow_add₀ two_ne_zero, add_neg_cancel,
    zpow_zero, mul_one]
  have hwidth : (0 : ℚ) < if n.IsBoundary then 1 / 4 else 1 / 2 := by
    split <;> norm_num
  split
  · constructor <;> linarith
  · constructor <;> linarith

/-! ## Whole numbers -/

theorem toInt?_spec {i : Int} (h : n.toInt? = some i) : n.IsFinite ∧ ∃ k : ℕ,
    (k : ℚ) = n.significand * 2 ^ n.exponent ∧ i = if n.isNegative then -(k : Int) else k := by
  unfold toInt? at h
  split at h
  · cases h
  · next hfinite =>
      refine ⟨not_le.mp hfinite, ?_⟩
      rcases scaled_spec one_pos n.significand n.exponent with ⟨hden, hvalue⟩
      generalize scaled n.significand 1 n.exponent = fraction at *
      dsimp only at h
      split at h
      · next hwhole =>
          obtain ⟨k, hk⟩ : fraction.2 ∣ fraction.1 := Nat.dvd_of_mod_eq_zero hwhole
          have hdenPos : (0 : ℚ) < fraction.2 := by exact_mod_cast hden
          rw [hk, Nat.mul_div_cancel_left k hden] at h
          rw [hk, Nat.cast_mul, mul_div_cancel_left₀ _ hdenPos.ne', Nat.cast_one, div_one] at hvalue
          exact ⟨k, hvalue, (Option.some.inj h).symm⟩
      · cases h

/-- A number that is an integer is a zero, or the number of that integer. -/
theorem toInt?_eq_some {i : Int} (h : n.toInt? = some i) :
    n.isZero = true ∧ i = 0 ∨ n.isZero = false ∧ ofInt i = n := by
  obtain ⟨hfinite, k, hvalue, hi⟩ := toInt?_spec h
  by_cases hzero : n.significand = 0
  · left
    rw [hzero, Nat.cast_zero, zero_mul] at hvalue
    obtain rfl : k = 0 := by exact_mod_cast hvalue
    refine ⟨significand_eq_zero_iff.mp hzero, ?_⟩
    rw [hi, Nat.cast_zero, neg_zero, ite_self]
  · right
    have hn : 0 < n.significand := Nat.pos_of_ne_zero hzero
    have hpos : 0 < k := by
      have : (0 : ℚ) < k := by
        rw [hvalue]
        positivity
      exact_mod_cast this
    have hcovers : n.Covers ((k : ℕ) / (1 : ℕ)) := by
      rw [Nat.cast_one, div_one, hvalue]
      exact covers_self hn
    have hsign : decide (i < 0) = n.isNegative ∧ i.natAbs = k := by
      rw [hi]
      cases n.isNegative with
      | true => exact ⟨decide_eq_true (by simpa using hpos), by simp⟩
      | false => exact ⟨decide_eq_false (by simp), by simp⟩
    refine ⟨Bool.eq_false_iff.mpr (mt significand_eq_zero_iff.mpr hzero), ?_⟩
    rw [ofInt, hsign.1, hsign.2, ofQuotient_of_covers one_pos hpos hfinite hn hcovers]

end Number

end RecordFilter
