import RecordFilter.Json.Reader
import RecordFilter.Json.Writer
import RecordFilter.Proofs.Number.Scaling

/-!
# Numerals in JSON

A numeral has up to three parts: the whole digits, the digits after a point, and an exponent.
Text that is spelt from such parts is read as these parts, if what follows cannot belong to a
numeral as well.

What is written of a finite number is a numeral with a point or an exponent, and the number is
the one nearest to it.  A numeral of few digits is read as the number nearest to it, so a number
with a short decimal is read back.
-/

namespace RecordFilter

/-! ## Digits -/

theorem digitsValue_append (cs ds : List Char) :
    digitsValue (cs ++ ds) = digitsValue cs * 10 ^ ds.length + digitsValue ds := by
  show Nat.ofDigitChars 10 (cs ++ ds) 0 = _
  rw [Nat.ofDigitChars_append, Nat.ofDigitChars_eq_ofDigitChars_zero, Nat.mul_comm]
  rfl

theorem digitsValue_replicate_zero (n : Nat) : digitsValue (List.replicate n '0') = 0 :=
  Nat.ofDigitChars_replicate_zero.trans (Nat.mul_zero _)

theorem digitsValue_natDigits (n : Nat) : digitsValue (natDigits n) = n :=
  Nat.ofDigitChars_toDigits (by decide) (by decide)

theorem isDigit_of_mem_natDigits {n : Nat} {c : Char} (h : c ∈ natDigits n) : c.isDigit = true :=
  Nat.isDigit_of_mem_toDigits (by decide) (by decide) h

theorem natDigits_ne_nil (n : Nat) : natDigits n ≠ [] :=
  Nat.toDigits_ne_nil

theorem head?_natDigits {n : Nat} (h : 0 < n) : (natDigits n).head? ≠ some '0' := by
  induction n using Nat.strongRecOn with
  | ind n ih =>
      rcases Nat.lt_or_ge n 10 with hlt | hle
      · have hall : ∀ n < 10, 0 < n → (natDigits n).head? ≠ some '0' := by
          decide
        exact hall n hlt h
      · have hfirst := ih (n / 10) (by omega) (by omega)
        rw [natDigits, Nat.toDigits_of_base_le (by decide) hle]
        rwa [List.head?_append_of_ne_nil _ Nat.toDigits_ne_nil]

theorem spanDigits_of_isDigit {digits rest : List Char} (h : ∀ c ∈ digits, c.isDigit = true)
    (hrest : ∀ c ∈ rest.head?, c.isDigit = false) :
    spanDigits (digits ++ rest) = (digits, rest) := by
  unfold spanDigits
  rw [List.takeWhile_append_of_pos h, List.dropWhile_append_of_pos h]
  cases rest with
  | nil => simp
  | cons c rest =>
      have hfirst : ¬c.isDigit = true := Bool.eq_false_iff.mp (hrest c rfl)
      rw [List.takeWhile_cons_of_neg hfirst, List.dropWhile_cons_of_neg hfirst, List.append_nil]

namespace Json

/-! ## Parts of a numeral -/

def EndsNumeral (rest : List Char) : Prop :=
  ∀ c ∈ rest.head?, c.isDigit = false ∧ c ≠ '.' ∧ c ≠ 'e' ∧ c ≠ 'E'

structure IsWhole (digits : List Char) : Prop where
  isDigit : ∀ c ∈ digits, c.isDigit = true
  ne_nil : digits ≠ []
  head : digits.head? = some '0' → digits = ['0']

theorem isWhole_zero : IsWhole ['0'] :=
  ⟨List.forall_mem_singleton.mpr rfl, List.cons_ne_nil _ _, fun _ => rfl⟩

theorem isWhole_of_front {n : Nat} (hn : 0 < n) {digits : List Char}
    (hfront : digits <+: natDigits n) (hdigits : digits ≠ []) : IsWhole digits where
  isDigit c hc := isDigit_of_mem_natDigits (hfront.subset hc)
  ne_nil := hdigits
  head h := by
    rcases hfront with ⟨more, hmore⟩
    have hhead : (natDigits n).head? = digits.head? := by
      rw [← hmore, List.head?_append_of_ne_nil _ hdigits]
    exact absurd (hhead.trans h) (head?_natDigits hn)

theorem isWhole_natDigits (n : Nat) : IsWhole (natDigits n) := by
  rcases Nat.eq_zero_or_pos n with rfl | hn
  · exact isWhole_zero
  · exact isWhole_of_front hn List.prefix_rfl (natDigits_ne_nil n)

theorem IsWhole.append_replicate {digits : List Char} (h : IsWhole digits)
    (hhead : digits.head? ≠ some '0') (n : Nat) :
    IsWhole (digits ++ List.replicate n '0') where
  isDigit := by
    refine List.forall_mem_append.mpr ⟨h.isDigit, fun c hc => ?_⟩
    rw [List.eq_of_mem_replicate hc]
    rfl
  ne_nil := List.append_ne_nil_of_left_ne_nil h.ne_nil _
  head hzero := by
    rw [List.head?_append_of_ne_nil _ h.ne_nil] at hzero
    exact absurd hzero hhead

theorem readWhole_append {digits rest : List Char} (h : IsWhole digits)
    (hrest : ∀ c ∈ rest.head?, c.isDigit = false) :
    readWhole (digits ++ rest) = .ok (digits, rest) := by
  obtain ⟨hdigit, hne, hhead⟩ := h
  cases digits with
  | nil => exact absurd rfl hne
  | cons c more =>
      by_cases hzero : c = '0'
      · obtain ⟨rfl, rfl⟩ : c = '0' ∧ more = [] := by
          have := hhead (congrArg some hzero)
          simpa using this
        cases rest with
        | nil => rfl
        | cons d rest =>
            simp only [List.cons_append, List.nil_append, readWhole, if_true]
            rw [if_neg (Bool.eq_false_iff.mp (hrest d rfl))]
      · simp only [List.cons_append, readWhole]
        rw [if_neg hzero, if_pos (hdigit c List.mem_cons_self), ← List.cons_append,
          spanDigits_of_isDigit hdigit hrest]

end Json

namespace Json.NumberText

def spellFraction (numeral : NumberText) : List Char :=
  match numeral.fraction with
  | some digits => '.' :: digits
  | none => []

def spellExponent (numeral : NumberText) : List Char :=
  match numeral.exponent with
  | some exponent => 'e' :: (if 0 ≤ exponent then ['+'] else []) ++ intDigits exponent
  | none => []

def spell (numeral : NumberText) : List Char :=
  numeral.whole ++ numeral.spellFraction ++ numeral.spellExponent

structure IsProper (numeral : NumberText) : Prop where
  whole : IsWhole numeral.whole
  fraction : ∀ digits ∈ numeral.fraction, digits ≠ [] ∧ ∀ c ∈ digits, c.isDigit = true

variable {numeral : NumberText} {rest : List Char}

theorem readExponent_of_readSign {cs : List Char} {negative : Bool} {n : Nat}
    (hsign : readSign cs = (negative, natDigits n ++ rest))
    (hrest : ∀ c ∈ rest.head?, c.isDigit = false) :
    readExponent ('e' :: cs) = .ok (some (if negative then -n else n), rest) := by
  have hspan := spanDigits_of_isDigit (fun c => isDigit_of_mem_natDigits (n := n)) hrest
  have hvalue := digitsValue_natDigits n
  simp only [readExponent, hsign, true_or, if_true]
  rw [hspan]
  cases hdigits : natDigits n with
  | nil => exact absurd hdigits (natDigits_ne_nil n)
  | cons d digits =>
      rw [hdigits] at hvalue
      simp only [hvalue]

theorem readExponent_spell (hrest : EndsNumeral rest) :
    readExponent (numeral.spellExponent ++ rest) = .ok (numeral.exponent, rest) := by
  unfold spellExponent
  cases numeral.exponent with
  | none =>
      cases rest with
      | nil => rfl
      | cons c rest =>
          obtain ⟨-, -, hlower, hupper⟩ := hrest c rfl
          simp only [List.nil_append, readExponent]
          rw [if_neg (not_or_intro hlower hupper)]
  | some exponent =>
      have hdigit : ∀ c ∈ rest.head?, c.isDigit = false := fun c hc => (hrest c hc).1
      dsimp only
      unfold intDigits
      by_cases hnegative : exponent < 0
      · rw [if_pos hnegative, if_neg (Int.not_le.mpr hnegative)]
        refine (readExponent_of_readSign (show readSign _ = (true, _) from rfl) hdigit).trans ?_
        rw [if_pos rfl, Int.ofNat_natAbs_of_nonpos hnegative.le, neg_neg]
      · have hle := Int.not_lt.mp hnegative
        rw [if_neg hnegative, if_pos hle]
        refine (readExponent_of_readSign (show readSign _ = (false, _) from rfl) hdigit).trans ?_
        rw [if_neg Bool.false_ne_true, Int.natAbs_of_nonneg hle]

theorem readFraction_spell (h : numeral.IsProper)
    (hrest : ∀ c ∈ rest.head?, c.isDigit = false ∧ c ≠ '.') :
    readFraction (numeral.spellFraction ++ rest) = .ok (numeral.fraction, rest) := by
  unfold spellFraction
  cases hfraction : numeral.fraction with
  | none =>
      cases rest with
      | nil => rfl
      | cons c rest =>
          have hpoint := (hrest c rfl).2
          simp [readFraction, hpoint]
  | some digits =>
      rcases h.fraction digits hfraction with ⟨hne, hdigit⟩
      simp only [List.cons_append, readFraction]
      rw [spanDigits_of_isDigit hdigit fun c hc => (hrest c hc).1]
      cases digits with
      | nil => exact absurd rfl hne
      | cons c digits => rfl

theorem readNumeral_spell (h : numeral.IsProper) (hrest : EndsNumeral rest) :
    readNumeral numeral.negative (numeral.spell ++ rest) = .ok (numeral, rest) := by
  have hexponent : ∀ c ∈ (numeral.spellExponent ++ rest).head?, c.isDigit = false ∧ c ≠ '.' := by
    unfold spellExponent
    cases numeral.exponent with
    | none => exact fun c hc => ⟨(hrest c hc).1, (hrest c hc).2.1⟩
    | some exponent =>
        rintro c ⟨⟩
        decide
  have hfraction : ∀ c ∈ (numeral.spellFraction ++ (numeral.spellExponent ++ rest)).head?,
      c.isDigit = false := by
    unfold spellFraction
    cases numeral.fraction with
    | none => exact fun c hc => (hexponent c hc).1
    | some digits =>
        rintro c ⟨⟩
        decide
  unfold readNumeral spell
  rw [List.append_assoc, List.append_assoc, readWhole_append h.whole hfraction]
  dsimp only [bind, Except.bind]
  rw [readFraction_spell h hexponent]
  dsimp only
  rw [readExponent_spell hrest]
  rfl

/-! ## Digits and powers -/

/-- With a point and at least one place the decimal has digits below `2 ^ 53`. -/
def HasFewDigits (digits : Nat) (power : Int) : Prop :=
  digits * 10 ^ (power + 1).toNat < 2 ^ 53 ∧ -22 ≤ power

def digits (numeral : NumberText) : Nat :=
  digitsValue (numeral.whole ++ numeral.fraction.getD [])

def power (numeral : NumberText) : Int :=
  numeral.exponent.getD 0 - (numeral.fraction.getD []).length

def IsShort (numeral : NumberText) : Prop :=
  numeral.digits < 2 ^ 53 ∧ -22 ≤ numeral.power ∧ numeral.power ≤ 22

theorem le_ofDigitChars (natural : Nat) (cs : List Char) :
    natural ≤ Nat.ofDigitChars 10 cs natural := by
  induction cs generalizing natural with
  | nil => exact le_rfl
  | cons c cs ih =>
      rw [Nat.ofDigitChars_cons]
      exact (ih _).trans' (by omega)

theorem readDigits_of_le {natural : Nat} {cs : List Char}
    (h : (Nat.ofDigitChars 10 cs natural : Int) ≤ greatestInteger) :
    readDigits natural cs = (Nat.ofDigitChars 10 cs natural, 0) := by
  induction cs generalizing natural with
  | nil => rfl
  | cons c cs ih =>
      rw [Nat.ofDigitChars_cons] at h ⊢
      have hle := (Int.ofNat_le.mpr (le_ofDigitChars _ cs)).trans h
      unfold readDigits digitValue
      rw [if_pos hle, ih h]

theorem decimal_of_digits_le (h : (numeral.digits : Int) ≤ greatestInteger) :
    numeral.decimal = (numeral.digits, numeral.power) := by
  have hsplit : numeral.digits =
      Nat.ofDigitChars 10 (numeral.fraction.getD []) (digitsValue numeral.whole) :=
    Nat.ofDigitChars_append ..
  have hle := le_ofDigitChars (digitsValue numeral.whole) (numeral.fraction.getD [])
  rw [← hsplit] at hle
  have hwhole : readDigits 0 numeral.whole = (digitsValue numeral.whole, 0) :=
    readDigits_of_le (h.trans' (Int.ofNat_le.mpr hle))
  have hfraction := readDigits_of_le (hsplit ▸ h)
  unfold decimal power
  dsimp only
  rw [hwhole]
  dsimp only
  rw [hfraction, hsplit]
  simp

/-! ## Numbers -/

/-- A numeral of few digits is read as the number nearest to it. -/
theorem number?_of_isShort (h : numeral.IsShort) : numeral.number? = some numeral.nearest := by
  have hle : (numeral.digits : Int) ≤ greatestInteger := by
    have := h.1
    unfold greatestInteger
    omega
  unfold number?
  rw [decimal_of_digits_le hle]
  dsimp only
  rw [Number.scale?_ofNat h.1 h.2.1 h.2.2, Option.map_some]
  exact congrArg some (Number.ofDecimal_eq_ofMagnitude ..).symm

theorem isFinite_of_number? {n : Number} (h : numeral.number? = some n) : n.IsFinite := by
  obtain ⟨m, hscale, rfl⟩ := Option.map_eq_some_iff.mp h
  have hfinite := Number.isFinite_of_scale? hscale
  unfold Number.IsFinite at hfinite ⊢
  rwa [Number.magnitude_ofMagnitude _ (hfinite.trans (by decide))]

/-- The numeral is a proper one with a point or an exponent, for a decimal. -/
structure Writes (numeral : NumberText) (digits : Nat) (power : Int) : Prop where
  proper : numeral.IsProper
  marked : (numeral.fraction.isSome || numeral.exponent.isSome) = true
  decimal : numeral.digits = digits ∧ numeral.power = power ∨
    ∃ zeros : ℕ, power = zeros ∧ numeral.digits = digits * 10 ^ (zeros + 1) ∧ numeral.power = -1

section Writes

variable {digits : Nat} {power : Int} (h : numeral.Writes digits power)
include h

theorem Writes.value : (numeral.digits * 10 ^ numeral.power : ℚ) = digits * 10 ^ power := by
  rcases h.decimal with ⟨hdigits, hpower⟩ | ⟨zeros, rfl, hdigits, hpower⟩
  · rw [hdigits, hpower]
  · rw [hdigits, hpower, zpow_neg_one, zpow_natCast]
    push_cast
    rw [pow_succ, mul_assoc, mul_assoc, mul_inv_cancel₀ (by norm_num), mul_one]

theorem Writes.isShort (hpos : 0 < digits) (hfew : HasFewDigits digits power) :
    numeral.IsShort := by
  obtain ⟨hbits, hleast⟩ := hfew
  have hmost : power ≤ 22 := by
    by_contra hlarge
    have hpower : 10 ^ 24 ≤ 10 ^ (power + 1).toNat := Nat.pow_le_pow_right (by decide) (by omega)
    have hle : 10 ^ 24 ≤ digits * 10 ^ (power + 1).toNat :=
      hpower.trans (Nat.le_mul_of_pos_left _ hpos)
    exact absurd (hle.trans_lt hbits) (by decide)
  unfold IsShort
  rcases h.decimal with ⟨hdigits, hpower⟩ | ⟨zeros, rfl, hdigits, hpower⟩
  · rw [hdigits, hpower]
    have hle : digits ≤ digits * 10 ^ (power + 1).toNat :=
      Nat.le_mul_of_pos_right _ (Nat.pow_pos (by decide))
    exact ⟨hle.trans_lt hbits, hleast, hmost⟩
  · rw [hdigits, hpower]
    exact ⟨hbits, by decide, by decide⟩

end Writes

theorem nearest_eq {n : Number} (hfinite : n.IsFinite) (hn : 0 < n.significand)
    (hnegative : numeral.negative = n.isNegative)
    (h : n.Covers (numeral.digits * 10 ^ numeral.power)) : numeral.nearest = n := by
  unfold nearest
  rw [hnegative]
  exact Number.ofDecimal_of_covers hfinite hn h

theorem integer?_of_marked (h : (numeral.fraction.isSome || numeral.exponent.isSome) = true) :
    numeral.integer? = none :=
  if_pos h

section Forms

variable {n : Nat} (hn : 0 < n) (negative : Bool)
include hn

theorem exists_writes_whole (zeros : Nat) : ∃ numeral : NumberText,
    numeral.negative = negative ∧ numeral.Writes n zeros ∧
      numeral.spell = natDigits n ++ List.replicate zeros '0' ++ ['.', '0'] := by
  refine ⟨⟨negative, natDigits n ++ List.replicate zeros '0', some ['0'], none⟩, rfl,
    ⟨⟨(isWhole_natDigits n).append_replicate (head?_natDigits hn) zeros, ?_⟩, rfl, ?_⟩, ?_⟩
  · rintro digits ⟨⟩
    exact ⟨isWhole_zero.ne_nil, isWhole_zero.isDigit⟩
  · refine .inr ⟨zeros, rfl, ?_, rfl⟩
    unfold NumberText.digits
    dsimp only [Option.getD_some]
    rw [digitsValue_append, digitsValue_append, digitsValue_natDigits, digitsValue_replicate_zero,
      List.length_replicate, Nat.pow_succ, ← Nat.mul_assoc]
    rfl
  · simp [spell, spellFraction, spellExponent]

theorem exists_writes_among {places : Nat} (hpos : 0 < places)
    (hplaces : places < (natDigits n).length) : ∃ numeral : NumberText,
    numeral.negative = negative ∧ numeral.Writes n (-places) ∧
      numeral.spell = (natDigits n).take ((natDigits n).length - places) ++
        '.' :: (natDigits n).drop ((natDigits n).length - places) := by
  have htake : (natDigits n).take ((natDigits n).length - places) ≠ [] := by
    rw [← List.length_pos_iff, List.length_take]
    omega
  have hdrop : (natDigits n).drop ((natDigits n).length - places) ≠ [] := by
    rw [← List.length_pos_iff, List.length_drop]
    omega
  refine ⟨⟨negative, (natDigits n).take ((natDigits n).length - places),
    some ((natDigits n).drop ((natDigits n).length - places)), none⟩, rfl,
    ⟨⟨isWhole_of_front hn (List.take_prefix _ _) htake, ?_⟩, rfl, ?_⟩, ?_⟩
  · rintro digits ⟨⟩
    exact ⟨hdrop, fun c hc => isDigit_of_mem_natDigits (List.mem_of_mem_drop hc)⟩
  · unfold NumberText.digits power
    dsimp only [Option.getD_some, Option.getD_none]
    rw [List.take_append_drop, digitsValue_natDigits, List.length_drop]
    exact .inl ⟨rfl, by omega⟩
  · simp [spell, spellFraction, spellExponent]

omit hn in
theorem exists_writes_after {places : Nat} (hplaces : (natDigits n).length ≤ places) :
    ∃ numeral : NumberText, numeral.negative = negative ∧ numeral.Writes n (-places) ∧
      numeral.spell =
        '0' :: '.' :: List.replicate (places - (natDigits n).length) '0' ++ natDigits n := by
  have hzeros : ∀ c ∈ List.replicate (places - (natDigits n).length) '0', c.isDigit = true := by
    intro c hc
    rw [List.eq_of_mem_replicate hc]
    rfl
  refine ⟨⟨negative, ['0'],
    some (List.replicate (places - (natDigits n).length) '0' ++ natDigits n), none⟩, rfl,
    ⟨⟨isWhole_zero, ?_⟩, rfl, ?_⟩, ?_⟩
  · rintro digits ⟨⟩
    refine ⟨List.append_ne_nil_of_right_ne_nil _ (natDigits_ne_nil n), ?_⟩
    exact List.forall_mem_append.mpr ⟨hzeros, fun c => isDigit_of_mem_natDigits⟩
  · have hdigits : digitsValue (['0'] ++
        (List.replicate (places - (natDigits n).length) '0' ++ natDigits n)) = n := by
      rw [digitsValue_append, digitsValue_append, digitsValue_replicate_zero,
        digitsValue_natDigits]
      simp [digitsValue, digitValue]
    unfold NumberText.digits power
    dsimp only [Option.getD_some, Option.getD_none]
    rw [hdigits, List.length_append, List.length_replicate]
    exact .inl ⟨rfl, by omega⟩
  · simp [spell, spellFraction, spellExponent]

theorem exists_writes_inPlace (power : Int) : ∃ numeral : NumberText,
    numeral.negative = negative ∧ numeral.Writes n power ∧
      numeral.spell = Numeral.inPlace .json (natDigits n) power := by
  unfold Numeral.inPlace
  split
  · next hpower =>
      lift power to ℕ using hpower
      exact exists_writes_whole hn negative power
  · next hpower =>
      obtain ⟨places, rfl⟩ : ∃ k : ℕ, power = -k := ⟨(-power).toNat, by omega⟩
      simp only [neg_neg, Int.toNat_natCast]
      split
      · next hplaces => exact exists_writes_among hn negative (by omega) hplaces
      · next hplaces => exact exists_writes_after negative (Nat.le_of_not_lt hplaces)

theorem exists_writes_withExponent (power : Int) : ∃ numeral : NumberText,
    numeral.negative = negative ∧ numeral.Writes n power ∧
      numeral.spell =
        Numeral.withExponent .json (natDigits n) (power + (natDigits n).length - 1) := by
  have hvalue := digitsValue_natDigits n
  have hdigit : ∀ c ∈ natDigits n, c.isDigit = true := fun c => isDigit_of_mem_natDigits
  have hfirst : ∀ first rest, natDigits n = first :: rest → IsWhole [first] := by
    intro first rest h
    exact isWhole_of_front hn ⟨rest, h.symm⟩ (List.cons_ne_nil first [])
  unfold Numeral.withExponent
  match hdigits : natDigits n with
  | [] => exact absurd hdigits (natDigits_ne_nil n)
  | [single] =>
      refine ⟨⟨negative, [single], none, some power⟩, rfl, ?_, ?_⟩
      · refine ⟨⟨hfirst single [] hdigits, nofun⟩, rfl, ?_⟩
        rw [hdigits] at hvalue
        simp [digits, NumberText.power, hvalue]
      · simp [spell, spellFraction, spellExponent, NumeralStyle.json]
  | first :: second :: rest =>
      rw [hdigits] at hvalue hdigit
      refine ⟨⟨negative, [first], some (second :: rest), some (power + (rest.length + 1))⟩, rfl,
        ?_, ?_⟩
      · refine ⟨⟨hfirst first _ hdigits, ?_⟩, rfl, ?_⟩
        · rintro digits ⟨⟩
          exact ⟨List.cons_ne_nil _ _, (List.forall_mem_cons.mp hdigit).2⟩
        · simp [digits, NumberText.power, hvalue]
      · have hexponent : power + ((first :: second :: rest).length : Int) - 1 =
            power + (rest.length + 1) := by
          simp only [List.length_cons]
          omega
        rw [hexponent]
        simp [spell, spellFraction, spellExponent, NumeralStyle.json]

end Forms

end Json.NumberText

/-! ## What is read back -/

def Number.IsShort (n : Number) : Prop :=
  n.isZero = true ∨ Json.NumberText.HasFewDigits (n.shortest .even).1 (n.shortest .even).2

/-- What the numeral of a finite number is read as. -/
def Number.readBack? (n : Number) : Option Json :=
  (Json.readNumber n.isNegative (Numeral.magnitude .json n)).toOption.map Prod.fst

namespace Json.NumberText

/-- The numeral has a point or an exponent, and a number is the one nearest to it. -/
structure StandsFor (numeral : NumberText) (n : Number) : Prop where
  proper : numeral.IsProper
  negative : numeral.negative = n.isNegative
  integer? : numeral.integer? = none
  nearest : numeral.nearest = n
  isShort : n.IsShort → numeral.IsShort

theorem Writes.standsFor {numeral : NumberText} {n : Number} (hfinite : n.IsFinite)
    (hn : 0 < n.significand) (hnegative : numeral.negative = n.isNegative)
    (h : numeral.Writes (n.shortest .even).1 (n.shortest .even).2) : numeral.StandsFor n := by
  have hcovers := Number.covers_shortest .even hfinite hn
  have hpos := Number.digits_pos_of_covers hfinite hn hcovers
  have hzero : n.isZero ≠ true := mt Number.significand_eq_zero_iff.mpr (Nat.ne_of_gt hn)
  refine ⟨h.proper, hnegative, integer?_of_marked h.marked, ?_, ?_⟩
  · exact nearest_eq hfinite hn hnegative (h.value ▸ hcovers)
  · exact fun hshort => h.isShort hpos (hshort.resolve_left hzero)

theorem standsFor_zero {n : Number} (hzero : n.isZero = true) :
    StandsFor ⟨n.isNegative, ['0'], some ['0'], none⟩ n := by
  refine ⟨⟨isWhole_zero, ?_⟩, rfl, rfl, Number.ofDecimal_zero hzero (-1), fun _ => ?_⟩
  · rintro digits ⟨⟩
    exact ⟨isWhole_zero.ne_nil, isWhole_zero.isDigit⟩
  · show digitsValue ['0', '0'] < 2 ^ 53 ∧ -22 ≤ (-1 : Int) ∧ (-1 : Int) ≤ 22
    decide

theorem exists_spell_magnitude {n : Number} (hfinite : n.IsFinite) : ∃ numeral : NumberText,
    numeral.StandsFor n ∧ numeral.spell = Numeral.magnitude .json n := by
  unfold Numeral.magnitude
  by_cases hzero : n.isZero = true
  · refine ⟨_, standsFor_zero hzero, ?_⟩
    rw [if_pos hzero]
    rfl
  · have hn : 0 < n.significand :=
      Nat.pos_of_ne_zero (mt Number.significand_eq_zero_iff.mp hzero)
    have hdigits : 0 < (n.shortest .even).1 :=
      Number.digits_pos_of_covers hfinite hn (Number.covers_shortest .even hfinite hn)
    rw [if_neg hzero]
    dsimp only
    split
    · obtain ⟨numeral, hnegative, hwrites, hspell⟩ :=
        exists_writes_inPlace hdigits n.isNegative (n.shortest .even).2
      exact ⟨numeral, hwrites.standsFor hfinite hn hnegative, hspell⟩
    · obtain ⟨numeral, hnegative, hwrites, hspell⟩ :=
        exists_writes_withExponent hdigits n.isNegative (n.shortest .even).2
      exact ⟨numeral, hwrites.standsFor hfinite hn hnegative, hspell⟩

def write (numeral : NumberText) : List Char :=
  if numeral.negative then '-' :: numeral.spell else numeral.spell

theorem toOption_ofNumeral (numeral : NumberText) (rest : List Char) :
    (ofNumeral numeral rest).toOption = numeral.json?.map (·, rest) := by
  unfold ofNumeral
  cases numeral.json? <;> rfl

theorem StandsFor.readBack? {numeral : NumberText} {n : Number} (h : numeral.StandsFor n)
    (hspell : numeral.spell = Numeral.magnitude .json n) : n.readBack? = numeral.json? := by
  have hread : readNumeral numeral.negative (numeral.spell ++ []) = .ok (numeral, []) :=
    readNumeral_spell h.proper nofun
  rw [List.append_nil, hspell, h.negative] at hread
  unfold Number.readBack? readNumber
  rw [hread]
  show (ofNumeral numeral []).toOption.map Prod.fst = _
  rw [toOption_ofNumeral, Option.map_map]
  exact Option.map_id'

/-- A short number is read back. -/
theorem readBack?_of_isShort {n : Number} (hfinite : n.IsFinite) (hshort : n.IsShort) :
    n.readBack? = some (.decimal n) := by
  obtain ⟨numeral, h, hspell⟩ := exists_spell_magnitude hfinite
  rw [h.readBack? hspell]
  unfold json?
  rw [h.integer?, number?_of_isShort (h.isShort hshort), h.nearest]
  rfl

theorem exists_write_decimal {n : Number} (hfinite : n.IsFinite) : ∃ numeral : NumberText,
    numeral.IsProper ∧ numeral.json? = n.readBack? ∧ numeral.write = n.write .json := by
  obtain ⟨numeral, h, hspell⟩ := exists_spell_magnitude hfinite
  rcases Number.isFinite_iff.mp hfinite with ⟨hnan, hinfinite⟩
  refine ⟨numeral, h.proper, (h.readBack? hspell).symm, ?_⟩
  unfold write Number.write
  rw [hnan, hinfinite, hspell, h.negative]
  rfl

theorem exists_write_integer {i : Int} (hleast : leastInteger ≤ i)
    (hgreatest : i ≤ greatestInteger) : ∃ numeral : NumberText,
    numeral.IsProper ∧ numeral.json? = some (.integer i) ∧ numeral.write = intDigits i := by
  refine ⟨⟨decide (i < 0), natDigits i.natAbs, none, none⟩, ⟨isWhole_natDigits _, nofun⟩, ?_, ?_⟩
  · have hinteger :
        NumberText.integer? ⟨decide (i < 0), natDigits i.natAbs, none, none⟩ = some i := by
      unfold integer?
      simp only [digitsValue_natDigits, Option.isSome_none, Bool.or_self, Bool.false_eq_true,
        if_false, decide_eq_true_eq]
      split
      · next hnegative =>
          rw [Int.ofNat_natAbs_of_nonpos hnegative.le, neg_neg, if_pos ⟨by omega, hleast⟩]
      · next hnegative =>
          rw [Int.natAbs_of_nonneg (Int.not_lt.mp hnegative), if_pos hgreatest]
    unfold json?
    rw [hinteger]
  · simp [write, intDigits, spell, spellFraction, spellExponent]

end Json.NumberText
end RecordFilter
