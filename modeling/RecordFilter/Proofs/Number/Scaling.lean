import RecordFilter.Number.Scaling
import RecordFilter.Proofs.Number.Shortest

/-!
# Exact scaling

Rounding depends on the quotient alone, not on the fraction that it is given by.  A natural of
fifty-three bits is a number, and so is such a natural times a power of two, for instance a power
of ten up to the twenty-second.

The product and the quotient of such numbers are exact before they are rounded.  So scaling by
such a power of ten leads to the number nearest to the decimal.
-/

namespace RecordFilter
namespace Number

/-! ## Rounding a quotient -/

section Quotients

variable {num den : Nat} (hden : 0 < den)
include hden

theorem roundsTo_roundQuotient : RoundsTo (num / den) (roundQuotient num den) := by
  have hpos : (0 : ℚ) < den := by exact_mod_cast hden
  have hnum : num = num / den * den + num % den := (Nat.div_add_mod' num den).symm
  have hrest : num % den < den := Nat.mod_lt num hden
  unfold roundQuotient
  generalize num / den = floor at *
  generalize num % den = rest at *
  have hvalue : (num : ℚ) / den = floor + rest / den := by
    rw [hnum, Nat.cast_add, Nat.cast_mul, add_div, mul_div_cancel_right₀ _ hpos.ne']
  have hnonneg : (0 : ℚ) ≤ rest / den := by positivity
  have hone : (rest : ℚ) / den < 1 := by
    rw [div_lt_one hpos]
    exact_mod_cast hrest
  have hbelow : 2 * rest < den ↔ (rest : ℚ) / den < 1 / 2 := by
    rw [div_lt_div_iff₀ hpos two_pos, one_mul, mul_comm]
    exact_mod_cast Iff.rfl
  have habove : den < 2 * rest ↔ (1 / 2 : ℚ) < rest / den := by
    rw [div_lt_div_iff₀ two_pos hpos, one_mul, mul_comm]
    exact_mod_cast Iff.rfl
  have hsucc : ((floor + 1 : ℕ) : ℚ) = floor + 1 := Nat.cast_succ floor
  rw [hvalue]
  generalize (rest : ℚ) / den = part at *
  dsimp only
  split
  · next hlt =>
      have := hbelow.mp hlt
      exact ⟨by linarith, by linarith, fun _ => ⟨by linarith, by linarith⟩⟩
  split
  · next hlt =>
      have := habove.mp hlt
      exact ⟨by linarith, by linarith, fun _ => ⟨by linarith, by linarith⟩⟩
  · next hle hge =>
      have hhalf : part = 1 / 2 :=
        le_antisymm (not_lt.mp (mt habove.mpr hge)) (not_lt.mp (mt hbelow.mpr hle))
      rw [hhalf]
      rcases Nat.mod_two_eq_zero_or_one floor with heven | hodd
      · rw [heven, Nat.add_zero]
        exact ⟨by linarith, by linarith, fun hodd => absurd hodd (by omega)⟩
      · rw [hodd]
        exact ⟨by linarith, by linarith, fun hodd => absurd hodd (by omega)⟩

theorem exists_readAt (hnum : 0 < num) : ∃ e k, ReadAt (num / den) e ∧
    RoundsTo (num / den * 2 ^ (-e)) k := by
  have hread := readAt_quotientExponent hden hnum
  generalize quotientExponent num den = e at hread
  rcases scaled_spec hden num (-e) with ⟨hscaled, hvalue⟩
  have hrounds : RoundsTo ((scaled num den (-e)).1 / (scaled num den (-e)).2) _ :=
    roundsTo_roundQuotient hscaled
  rw [hvalue] at hrounds
  exact ⟨e, _, hread, hrounds⟩

omit hden in
theorem roundMagnitude_zero : roundMagnitude 0 den = 0 :=
  if_pos rfl

theorem roundMagnitude_congr {num' den' : Nat} (hden' : 0 < den')
    (h : (num / den : ℚ) = num' / den') : roundMagnitude num den = roundMagnitude num' den' := by
  have hpos : (0 : ℚ) < den := by exact_mod_cast hden
  have hpos' : (0 : ℚ) < den' := by exact_mod_cast hden'
  have hzero : num = 0 ↔ num' = 0 := by
    have hdiv : (num / den : ℚ) = 0 ↔ (num' / den' : ℚ) = 0 := by rw [h]
    rw [div_eq_zero_iff, div_eq_zero_iff] at hdiv
    simpa [hpos.ne', hpos'.ne'] using hdiv
  rcases Nat.eq_zero_or_pos num with hnum | hnum
  · rw [hnum, hzero.mp hnum, roundMagnitude_zero, roundMagnitude_zero]
  · have hnum' : 0 < num' := Nat.pos_of_ne_zero (mt hzero.mpr (Nat.ne_of_gt hnum))
    obtain ⟨e, k, hread, hrounds⟩ := exists_readAt hden hnum
    rw [roundMagnitude_eq hden hnum hread hrounds]
    rw [h] at hread hrounds
    rw [roundMagnitude_eq hden' hnum' hread hrounds]

/-- What is well within the range is not rounded to infinity. -/
theorem roundMagnitude_lt (h : (num / den : ℚ) < 2 ^ (1000 : ℤ)) :
    roundMagnitude num den < infiniteMagnitude := by
  rcases Nat.eq_zero_or_pos num with rfl | hnum
  · rw [roundMagnitude_zero]
    decide
  · obtain ⟨e, k, hread, hrounds⟩ := exists_readAt hden hnum
    have he : e < 948 := by
      rcases hread.above with rfl | habove
      · decide
      · have := (zpow_lt_zpow_iff_right₀ one_lt_two).mp (habove.trans_lt h)
        omega
    have hk : k ≤ 2 * leadingBit := by
      have hbelow := (readAt_iff.mp hread).2.1
      have hlow := hrounds.low
      have : (k : ℚ) < 2 ^ 53 + 1 := by linarith
      have : k < 2 ^ 53 + 1 := by exact_mod_cast this
      unfold leadingBit
      omega
    rw [roundMagnitude_eq hden hnum hread hrounds]
    refine Nat.lt_of_le_of_lt (Nat.min_le_left _ _) ?_
    unfold infiniteMagnitude
    unfold leadingBit at *
    omega

end Quotients

/-! ## The size of a number -/

/-- What a finite number stands for, without its sign. -/
def size (n : Number) : ℚ :=
  n.significand * 2 ^ n.exponent

theorem ofMagnitude_parts (negative : Bool) {e : Int} {k : Nat} (hk : k < 2 * leadingBit)
    (he : -1074 ≤ e ∧ e ≤ 971) (hleading : e = -1074 ∨ leadingBit ≤ k) :
    let n := ofMagnitude negative ((e + 1074).toNat * leadingBit + k)
    n.significand = k ∧ n.exponent = e := by
  have hlt : (e + 1074).toNat * leadingBit + k < signBit := by
    unfold signBit
    unfold leadingBit at *
    omega
  unfold significand exponent
  dsimp only
  rw [magnitude_ofMagnitude negative hlt]
  unfold leadingBit at *
  constructor
  · split <;> omega
  · split <;> omega

theorem size_ofQuotient {negative : Bool} {num den : Nat} (hden : 0 < den) (hnum : 0 < num)
    {e : Int} {k : Nat} (hread : ReadAt (num / den) e) (he : e ≤ 900)
    (hk : (num / den * 2 ^ (-e) : ℚ) = k) : (ofQuotient negative num den).size = num / den := by
  have hrounds : RoundsTo (num / den * 2 ^ (-e)) k := by
    rw [hk]
    exact ⟨by linarith, by linarith, fun _ => ⟨by linarith, by linarith⟩⟩
  obtain ⟨hleast, hbelow, hleading⟩ := readAt_iff.mp hread
  rw [hk] at hbelow hleading
  have hlt : k < 2 * leadingBit := by exact_mod_cast hbelow
  have hge : e = -1074 ∨ leadingBit ≤ k := hleading.imp_right fun h => by exact_mod_cast h
  have hfinite : (e + 1074).toNat * leadingBit + k ≤ infiniteMagnitude := by
    unfold infiniteMagnitude
    unfold leadingBit at *
    omega
  rw [ofQuotient, roundMagnitude_eq hden hnum hread hrounds, Nat.min_eq_left hfinite]
  obtain ⟨hsignificand, hexponent⟩ :=
    ofMagnitude_parts negative hlt ⟨hleast, by omega⟩ hge
  rw [size, hsignificand, hexponent, ← hk, mul_assoc, ← zpow_add₀ two_ne_zero, neg_add_cancel,
    zpow_zero, mul_one]

/-- A natural of fifty-three bits times a power of two is a number. -/
theorem size_ofNat {a b : Nat} (ha : 0 < a) (hbits : a < 2 ^ 53) (hb : b ≤ 900) :
    (ofNat (a * 2 ^ b)).size = a * 2 ^ b := by
  have hpos : 0 < a * 2 ^ b := Nat.mul_pos ha (Nat.two_pow_pos b)
  have hlog : (a * 2 ^ b).log2 < 53 + b := by
    rw [Nat.log2_lt (Nat.ne_of_gt hpos), pow_add]
    exact Nat.mul_lt_mul_of_pos_right hbits (Nat.two_pow_pos b)
  obtain ⟨hlow, hhigh⟩ := log2_bounds hpos
  generalize hguess : ((a * 2 ^ b).log2 : ℤ) - 52 = e
  have hread : ReadAt ((a * 2 ^ b : ℕ) / (1 : ℕ)) e := by
    rw [Nat.cast_one, div_one]
    refine ⟨by omega, ?_, .inr ?_⟩
    · rwa [show e + 53 = (a * 2 ^ b).log2 + 1 by omega]
    · rwa [show e + 52 = (a * 2 ^ b).log2 by omega]
  obtain ⟨places, hplaces⟩ : ∃ places : ℕ, (b : ℤ) - e = places := ⟨(b - e).toNat, by omega⟩
  have hk : ((a * 2 ^ b : ℕ) / (1 : ℕ) * 2 ^ (-e) : ℚ) = (a * 2 ^ places : ℕ) := by
    push_cast
    rw [div_one, mul_assoc, ← zpow_natCast, ← zpow_natCast, ← zpow_add₀ two_ne_zero, ← hplaces]
    rfl
  rw [ofNat, size_ofQuotient one_pos hpos hread (by omega) hk]
  push_cast
  rw [div_one]

theorem isNegative_ofNat (n : Nat) : (ofNat n).isNegative = false := by
  have hle := roundMagnitude_le n 1
  have hlt : roundMagnitude n 1 < signBit := hle.trans_lt (by decide)
  unfold ofNat ofQuotient isNegative
  rw [toNat_ofMagnitude false hlt, if_neg Bool.false_ne_true, Nat.add_zero]
  exact decide_eq_false (Nat.not_le.mpr hlt)

theorem isZero_of_size_pos {n : Number} (h : 0 < n.size) : n.isZero = false := by
  refine Bool.eq_false_iff.mpr fun hzero => ?_
  unfold size at h
  rw [significand_eq_zero_iff.mpr hzero, Nat.cast_zero, zero_mul] at h
  exact absurd h (lt_irrefl 0)

theorem size_natural {n : Nat} (hpos : 0 < n) (hbits : n < 2 ^ 53) : (ofNat n).size = n := by
  have hsize := size_ofNat hpos hbits (Nat.zero_le 900)
  rwa [pow_zero, mul_one, pow_zero, mul_one] at hsize

theorem size_powerOfTen {places : Nat} (h : places ≤ 22) :
    (powerOfTen places).size = 10 ^ places := by
  have hbits : 5 ^ places < 2 ^ 53 :=
    (Nat.pow_le_pow_right (by decide) h).trans_lt (by decide)
  have hsplit : tenTo places = 5 ^ places * 2 ^ places := Nat.mul_pow 5 2 places
  have hsize := size_ofNat (Nat.pow_pos (by decide)) hbits (h.trans (by decide))
  unfold powerOfTen
  rw [hsplit, hsize]
  push_cast
  rw [← mul_pow]
  norm_num

/-! ## Products and quotients -/

section Exact

variable {a b : Number} {num den : Nat} (hden : 0 < den)
include hden

theorem times_eq_ofQuotient (h : a.size * b.size = num / den) :
    a.times b = ofQuotient (a.isNegative != b.isNegative) num den := by
  rcases scaled_spec one_pos (a.significand * b.significand) (a.exponent + b.exponent) with
    ⟨hscaled, hvalue⟩
  unfold times ofQuotient
  dsimp only
  rw [roundMagnitude_congr hscaled hden]
  rw [hvalue, ← h, zpow_add₀ two_ne_zero]
  unfold size
  push_cast
  ring

theorem dividedBy_eq_ofQuotient (hb : 0 < b.significand) (h : a.size / b.size = num / den) :
    a.dividedBy b = ofQuotient (a.isNegative != b.isNegative) num den := by
  rcases scaled_spec hb a.significand (a.exponent - b.exponent) with ⟨hscaled, hvalue⟩
  unfold dividedBy ofQuotient
  dsimp only
  rw [roundMagnitude_congr hscaled hden]
  rw [hvalue, ← h, zpow_sub₀ two_ne_zero]
  unfold size
  rw [mul_div_mul_comm]

end Exact

/-! ## Scaling -/

theorem isInfinite_ofQuotient {negative : Bool} {num den : Nat} (hden : 0 < den)
    (h : (num / den : ℚ) < 2 ^ (1000 : ℤ)) : (ofQuotient negative num den).isInfinite = false := by
  have hlt := roundMagnitude_lt hden h
  unfold ofQuotient isInfinite
  rw [magnitude_ofMagnitude negative (hlt.trans (by decide))]
  exact beq_eq_false_iff_ne.mpr (Nat.ne_of_lt hlt)

theorem times_powerOfTen {digits places : Nat} (hpos : 0 < digits) (hbits : digits < 2 ^ 53)
    (hplaces : places ≤ 22) :
    (ofNat digits).times (powerOfTen places) = ofQuotient false (digits * tenTo places) 1 := by
  have hsize : (ofNat digits).size * (powerOfTen places).size =
      (digits * tenTo places : ℕ) / (1 : ℕ) := by
    rw [size_natural hpos hbits, size_powerOfTen hplaces, Nat.cast_one, div_one, Nat.cast_mul,
      tenTo_cast]
  rw [times_eq_ofQuotient one_pos hsize, isNegative_ofNat, powerOfTen, isNegative_ofNat]
  rfl

theorem lower_ofNat {digits places : Nat} (hpos : 0 < digits) (hbits : digits < 2 ^ 53)
    (hplaces : 0 < places ∧ places ≤ 22) :
    (ofNat digits).lower places = ofQuotient false digits (tenTo places) := by
  have hrounds : (places - 1) / mostPlaces = 0 := Nat.div_eq_of_lt (by unfold mostPlaces; omega)
  have hpower : 0 < (powerOfTen places).significand := by
    refine Nat.pos_of_ne_zero fun hzero => ?_
    have hsize := size_powerOfTen hplaces.2
    rw [size, hzero, Nat.cast_zero, zero_mul] at hsize
    exact absurd hsize (by positivity)
  have hsize : (ofNat digits).size / (powerOfTen places).size = digits / tenTo places := by
    rw [size_natural hpos hbits, size_powerOfTen hplaces.2, tenTo_cast]
  unfold lower
  dsimp only
  rw [hrounds, Nat.zero_mul, Nat.sub_zero, sink,
    dividedBy_eq_ofQuotient (tenTo_pos places) hpower hsize, isNegative_ofNat, powerOfTen,
    isNegative_ofNat]
  rfl

section Few

variable {digits : Nat} {power : Int} (hpos : 0 < digits) (hbits : digits < 2 ^ 53)
  (hleast : -22 ≤ power) (hmost : power ≤ 22)
include hpos hleast hmost

theorem ofDecimal_of_few (negative : Bool) : ofDecimal negative digits power =
    if 0 ≤ power then ofQuotient negative (digits * tenTo power.toNat) 1
    else ofQuotient negative digits (tenTo (-power).toNat) := by
  unfold ofDecimal
  dsimp only
  rw [if_neg (Nat.ne_of_gt hpos), if_neg (by omega), if_neg (by omega)]

include hbits

theorem isInfinite_ofDecimal_of_few :
    (ofDecimal false digits power).isInfinite = false := by
  have hdigits : (digits : ℚ) < 2 ^ 53 := by exact_mod_cast hbits
  have hsmall : ∀ x : ℚ, 0 ≤ x → x ≤ 10 ^ 22 → digits * x < 2 ^ (1000 : ℤ) := by
    intro x hx hle
    calc digits * x ≤ 2 ^ 53 * 10 ^ 22 := by gcongr
      _ < 2 ^ (200 : ℤ) := by norm_num
      _ < 2 ^ (1000 : ℤ) := zpow_lt_zpow_right₀ one_lt_two (by decide)
  rw [ofDecimal_of_few hpos hleast hmost]
  split
  · apply isInfinite_ofQuotient one_pos
    rw [Nat.cast_mul, tenTo_cast, Nat.cast_one, div_one]
    exact hsmall _ (by positivity) (pow_le_pow_right₀ (by norm_num) (by omega))
  · apply isInfinite_ofQuotient (tenTo_pos _)
    rw [tenTo_cast, div_eq_mul_inv]
    refine hsmall _ (by positivity) ((inv_le_one_of_one_le₀ ?_).trans (by norm_num))
    exact one_le_pow₀ (by norm_num)

theorem ofDecimal_eq_scaled : ofDecimal false digits power =
    if 0 ≤ power then (ofNat digits).times (powerOfTen power.toNat)
    else (ofNat digits).lower (-power).toNat := by
  rw [ofDecimal_of_few hpos hleast hmost]
  split
  · rw [times_powerOfTen hpos hbits (by omega)]
  · rw [lower_ofNat hpos hbits (by omega)]

end Few

/-- Scaling by few places is exact before it is rounded. -/
theorem scale?_ofNat {digits : Nat} {power : Int} (hbits : digits < 2 ^ 53)
    (hleast : -22 ≤ power) (hmost : power ≤ 22) :
    (ofNat digits).scale? power = some (ofDecimal false digits power) := by
  rcases Nat.eq_zero_or_pos digits with rfl | hpos
  · rfl
  · have hcast : (0 : ℚ) < digits := by exact_mod_cast hpos
    have hzero : (ofNat digits).isZero = false :=
      isZero_of_size_pos ((size_natural hpos hbits).symm ▸ hcast)
    unfold scale?
    dsimp only
    rw [hzero, if_neg Bool.false_ne_true, if_neg (by unfold mostPlaces; omega),
      ← ofDecimal_eq_scaled hpos hbits hleast hmost,
      isInfinite_ofDecimal_of_few hpos hbits hleast hmost]
    rfl

theorem isFinite_of_scale? {n m : Number} {power : Int} (h : n.scale? power = some m) :
    m.IsFinite := by
  unfold scale? at h
  dsimp only at h
  split at h
  · next hzero =>
      cases h
      have hmagnitude : n.magnitude = 0 := eq_of_beq hzero
      unfold IsFinite
      rw [hmagnitude]
      decide
  split at h
  · cases h
  generalize hresult : (if 0 ≤ power then n.times (powerOfTen power.toNat)
    else n.lower (-power).toNat) = result at h
  split at h
  · cases h
  · next hfinite =>
      cases h
      rw [Bool.not_eq_true] at hfinite
      split at hresult
      · subst hresult
        exact isFinite_ofQuotient hfinite
      · subst hresult
        exact isFinite_ofQuotient hfinite

end Number
end RecordFilter
