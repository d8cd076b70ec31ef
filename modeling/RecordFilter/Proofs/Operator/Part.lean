import RecordFilter.Operator.Text
import RecordFilter.Proofs.Text.Part
import RecordFilter.Proofs.Value.Fold

/-!
# Tests for a part of a text

Four operators look for a text in the display text of a value.  They differ in the sides on
which the display text may go on around it.

When value and text are folded, strings show their folded text afterwards.  Other scalars show
the text they have always shown, and containers the text made of their folded members and
verbatim keys.  For numbers this is harmless as long as the text is one of digits; the sign of a
negative number is a dash at an end, and dashes at the ends are dropped.
-/

namespace RecordFilter

/-! ## Operators that look for a part -/

/-- The sides that an operator leaves open, if it looks for a part of a text. -/
def StringOperator.margins? : StringOperator → Option Margins
  | .equals => some ⟨false, false⟩
  | .startsWith => some ⟨false, true⟩
  | .endsWith => some ⟨true, false⟩
  | .contains => some ⟨true, true⟩
  | _ => none

theorem isPrefixOf_iff {part text : List Char} :
    part.isPrefixOf text = true ↔ ∃ after, text = part ++ after := by
  rw [List.isPrefixOf_iff_prefix]
  exact exists_congr fun after => eq_comm

theorem occursIn_iff {part text : List Char} :
    occursIn part text = true ↔ ∃ before after, text = before ++ part ++ after := by
  induction text with
  | nil =>
      rw [occursIn, List.isEmpty_iff]
      constructor
      · rintro rfl
        exact ⟨[], [], rfl⟩
      · rintro ⟨before, after, heq⟩
        simp only [List.nil_eq, List.append_eq_nil_iff] at heq
        exact heq.1.2
  | cons c rest ih =>
      have hrest : occursIn part (c :: rest) = true ↔
          (∃ after, c :: rest = part ++ after) ∨
            ∃ before after, rest = before ++ part ++ after := by
        rw [← ih, ← isPrefixOf_iff, ← Bool.or_eq_true]
        rfl
      rw [hrest]
      constructor
      · rintro (⟨after, heq⟩ | ⟨before, after, heq⟩)
        · exact ⟨[], after, heq⟩
        · exact ⟨c :: before, after, congrArg (c :: ·) heq⟩
      · rintro ⟨before, after, heq⟩
        cases before with
        | nil => exact .inl ⟨after, heq⟩
        | cons b before => exact .inr ⟨before, after, (List.cons.inj heq).2⟩

theorem StringOperator.holds_iff {op : StringOperator} {margins : Margins}
    (h : op.margins? = some margins) (v : Value) (part : String) :
    op.holds v (.string part) = true ↔
      v.isNil = false ∧ margins.Occurs part.toList v.display.toList := by
  rw [holds, Bool.and_eq_true, Bool.not_eq_true']
  apply and_congr_right
  intro _
  cases op with
  | equals =>
      cases h
      show (v.display == part) = true ↔ _
      rw [beq_iff_eq, ← String.toList_inj]
      constructor
      · intro heq
        rw [heq]
        exact Margins.occurs_refl _ _
      · rintro ⟨before, after, hfit, heq⟩
        rw [heq, hfit.before rfl, hfit.after rfl, List.nil_append, List.append_nil]
  | startsWith =>
      cases h
      show part.toList.isPrefixOf v.display.toList = true ↔ _
      rw [isPrefixOf_iff]
      constructor
      · rintro ⟨after, heq⟩
        exact ⟨[], after, ⟨fun _ => rfl, nofun⟩, heq⟩
      · rintro ⟨before, after, hfit, heq⟩
        rw [hfit.before rfl] at heq
        exact ⟨after, heq⟩
  | endsWith =>
      cases h
      show part.toList.isSuffixOf v.display.toList = true ↔ _
      rw [List.isSuffixOf_iff_suffix]
      constructor
      · rintro ⟨before, heq⟩
        exact ⟨before, [], ⟨nofun, fun _ => rfl⟩, by rw [List.append_nil, heq]⟩
      · rintro ⟨before, after, hfit, heq⟩
        rw [hfit.after rfl, List.append_nil] at heq
        exact ⟨before, heq.symm⟩
  | contains =>
      cases h
      show occursIn part.toList v.display.toList = true ↔ _
      rw [occursIn_iff]
      constructor
      · rintro ⟨before, after, heq⟩
        exact ⟨before, after, ⟨nofun, nofun⟩, heq⟩
      · rintro ⟨before, after, -, heq⟩
        exact ⟨before, after, heq⟩
  | _ => cases h

/-! ## Values that keep a part -/

namespace Value

def ShowsFolded (margins : Margins) (v : Value) : Prop :=
  margins.Occurs (foldChars v.display.toList) v.folded.display.toList

/-- What makes sure that a part of the display text is not lost by folding. -/
inductive Keeps (margins : Margins) (part : String) (v : Value) : Prop
  | shown (hshows : v.ShowsFolded margins) (hsettles : margins.Settles part.toList)
  | unchanged (hv : v.folded = v)
      (hpart : margins.Occurs (foldChars part.toList) part.toList)

variable {margins : Margins} {part : String} {v : Value}

theorem Keeps.occurs (h : Keeps margins part v)
    (hoccurs : margins.Occurs part.toList v.display.toList) :
    margins.Occurs (foldChars part.toList) v.folded.display.toList := by
  cases h with
  | shown hshows hsettles => exact (hoccurs.foldChars hsettles).trans hshows
  | unchanged hv hpart =>
      rw [hv]
      exact hpart.trans hoccurs

theorem folded_string (s : String) : (string s).folded = .string (foldText s) := by
  rw [folded]

theorem display_folded_string (s : String) :
    (string s).folded.display.toList = foldChars s.toList := by
  rw [folded_string, display, foldText, String.toList_ofList]

theorem showsFolded_string (margins : Margins) (s : String) :
    (string s).ShowsFolded margins := by
  rw [ShowsFolded, display_folded_string]
  exact margins.occurs_refl _

theorem showsFolded_boolean (margins : Margins) (b : Bool) :
    (boolean b).ShowsFolded margins := by
  have hfolded : foldChars (boolean b).display.toList = (boolean b).display.toList := by
    cases b with
    | true => decide +kernel
    | false => decide +kernel
  rw [ShowsFolded, hfolded]
  exact margins.occurs_refl _

end Value

/-! ## Digits -/

def IsNumeric (c : Char) : Prop :=
  c.isDigit = true ∨ c = '.'

namespace IsNumeric

variable {c : Char} (h : IsNumeric c)
include h

theorem toNat_mem : c.toNat ∈ 46 :: List.range' 48 10 := by
  rcases h with hdigit | rfl
  · rcases Char.isDigit_iff_toNat.mp hdigit with ⟨hfirst, hlast⟩
    apply List.mem_cons_of_mem
    apply List.mem_range'_1.mpr
    exact ⟨hfirst, Nat.lt_succ_of_le hlast⟩
  · exact List.mem_cons_self

theorem isBare : Fold.IsBare c ∧ isSeparator c = false := by
  have hall : ∀ code ∈ 46 :: List.range' 48 10, code ∉ LetterCase.raisedCodes ∧
      isMark (Char.ofNat code) = false ∧ isSeparator (Char.ofNat code) = false ∧ code < 0xC0 := by
    decide +kernel
  have hc := hall c.toNat h.toNat_mem
  rw [Char.ofNat_toNat] at hc
  rcases hc with ⟨hlowered, hmark, hseparator, hfirst⟩
  refine ⟨⟨LetterCase.isLowered_iff.mpr hlowered, ?_, hmark⟩, hseparator⟩
  exact if_pos hfirst

end IsNumeric

section Numeric

variable {cs : List Char} (h : ∀ c ∈ cs, IsNumeric c)
include h

theorem not_isSpace_numeric : ∀ c ∈ cs, isSpace c = false := by
  intro c hc
  have hseparator := (h c hc).isBare.2
  rw [isSeparator, Bool.or_eq_false_iff] at hseparator
  exact hseparator.1

theorem foldChars_numeric : foldChars cs = cs := by
  have hbare := Fold.bareLower_of_isBare (not_isSpace_numeric h) fun c hc => (h c hc).isBare.1
  rw [foldChars, hbare]
  exact Fold.dashed_words (fun c hc => (h c hc).isBare.2) false

theorem foldChars_negative : foldChars ('-' :: cs) = cs := by
  have hspace : ∀ c ∈ '-' :: cs, isSpace c = false :=
    List.forall_mem_cons.mpr ⟨by decide +kernel, not_isSpace_numeric h⟩
  have hbare := Fold.bareLower_of_isBare hspace
    (List.forall_mem_cons.mpr ⟨Fold.isBare_dash, fun c hc => (h c hc).isBare.1⟩)
  have hdash : isSeparator '-' = true := by
    decide +kernel
  rw [foldChars, hbare, Fold.dashed, if_pos hdash, Fold.dashed_not_started]
  exact Fold.dashed_words (fun c hc => (h c hc).isBare.2) false

end Numeric

namespace Numeral

theorem isNumeric_natDigits (n : Nat) : ∀ c ∈ natDigits n, IsNumeric c :=
  fun _ hc => .inl (Nat.isDigit_of_mem_toDigits (by decide) (by decide) hc)

theorem isNumeric_inPlace {digits : List Char} (h : ∀ c ∈ digits, IsNumeric c) (power : Int) :
    ∀ c ∈ inPlace .plain digits power, IsNumeric c := by
  have hzeros : ∀ n, ∀ c ∈ List.replicate n '0', IsNumeric c := by
    intro n c hc
    rw [List.eq_of_mem_replicate hc]
    exact .inl rfl
  have hpoint : ∀ fore back : List Char, (∀ c ∈ fore, IsNumeric c) → (∀ c ∈ back, IsNumeric c) →
      ∀ c ∈ fore ++ '.' :: back, IsNumeric c := by
    intro fore back hfore hback
    exact List.forall_mem_append.mpr ⟨hfore, List.forall_mem_cons.mpr ⟨.inr rfl, hback⟩⟩
  unfold inPlace
  split
  · rw [List.append_assoc]
    exact List.forall_mem_append.mpr ⟨h, List.forall_mem_append.mpr ⟨hzeros _, nofun⟩⟩
  · dsimp only
    split
    · exact hpoint _ _ (fun c hc => h c (List.mem_of_mem_take hc))
        fun c hc => h c (List.mem_of_mem_drop hc)
    · exact hpoint ['0'] _ (hzeros 1) (List.forall_mem_append.mpr ⟨hzeros _, h⟩)

theorem isNumeric_magnitude (n : Number) : ∀ c ∈ magnitude .plain n, IsNumeric c := by
  unfold magnitude
  split
  · exact List.forall_mem_singleton.mpr (.inl rfl)
  · exact isNumeric_inPlace (isNumeric_natDigits _) _

end Numeral

namespace Value

/-- A finite number shows its digits; its sign is lost, unless more may stand before them. -/
theorem showsFolded_number {margins : Margins} {n : Number}
    (hfinite : n.magnitude < Number.infiniteMagnitude)
    (hsign : n.isNegative = true → margins.before = true) : (number n).ShowsFolded margins := by
  have hnan : n.isNaN = false := decide_eq_false (Nat.not_lt.mpr (Nat.le_of_lt hfinite))
  have hinfinite : n.isInfinite = false := beq_false_of_ne (Nat.ne_of_lt hfinite)
  have hdigits := Numeral.isNumeric_magnitude n
  have hdisplay : (number n).display.toList =
      if n.isNegative then '-' :: Numeral.magnitude .plain n else Numeral.magnitude .plain n := by
    rw [display, String.toList_ofList, Number.write, hnan, hinfinite]
    rfl
  have hfolded : (number n).folded = number n := rfl
  rw [ShowsFolded, hfolded, hdisplay]
  cases hnegative : n.isNegative with
  | true =>
      rw [if_pos rfl, foldChars_negative hdigits]
      refine ⟨['-'], [], ⟨?_, fun _ => rfl⟩, (List.append_nil _).symm⟩
      intro hclosed
      rw [hsign hnegative] at hclosed
      cases hclosed
  | false =>
      rw [if_neg Bool.false_ne_true, foldChars_numeric hdigits]
      exact margins.occurs_refl _

end Value

end RecordFilter
