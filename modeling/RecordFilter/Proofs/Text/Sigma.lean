import RecordFilter.Proofs.Text.Part

/-!
# Parts that folding loses

A capital sigma that is not settled by the part it stands in is written in one form in the part
and in the other in a longer text.  Folding keeps all small sigmas that lower-casing gives, so
they can be counted.

The main statement is that a part occurs in every folded text that had it exactly if its sigmas
are settled.
-/

namespace RecordFilter

open LetterCase

/-! ## Sigmas that turn -/

namespace LetterCase

theorem lowerSigma_eq_final_iff {before rest : List Char} :
    lowerSigma before rest = 'ς' ↔ meetsCased before = true ∧ meetsCased rest = false := by
  unfold lowerSigma
  cases meetsCased before <;> cases meetsCased rest <;> decide

theorem lowerSigma_eq_inner_iff {before rest : List Char} :
    lowerSigma before rest = 'σ' ↔ meetsCased before = false ∨ meetsCased rest = true := by
  unfold lowerSigma
  cases meetsCased before <;> cases meetsCased rest <;> decide

/-- Every capital sigma that becomes `d` between the first two texts does so between the others. -/
def Turns (d : Char) (before after before' after' cs : List Char) : Prop :=
  ∀ start rest, cs = start ++ 'Σ' :: rest →
    lowerSigma (start.reverse ++ before) (rest ++ after) = d →
      lowerSigma (start.reverse ++ before') (rest ++ after') = d

section Turns

variable {d : Char} {before after before' after' : List Char}

theorem count_lowerBetween_le {cs : List Char} (h : Turns d before after before' after' cs) :
    (lowerBetween before after cs).count d ≤ (lowerBetween before' after' cs).count d := by
  induction cs generalizing before before' with
  | nil => exact Nat.le_refl _
  | cons c rest ih =>
      have hrest : Turns d (c :: before) after (c :: before') after' rest := by
        intro start rest' heq
        have hcons := h (c :: start) rest' (by rw [heq, List.cons_append])
        simpa only [List.reverse_cons, List.append_assoc, List.singleton_append] using hcons
      rw [lowerBetween, lowerBetween, List.count_append, List.count_append]
      refine Nat.add_le_add ?_ (ih hrest)
      by_cases hc : c = 'Σ'
      · have hfirst := h [] rest (by rw [hc, List.nil_append])
        rw [if_pos hc, if_pos hc, List.count_singleton, List.count_singleton]
        simp only [List.reverse_nil, List.nil_append] at hfirst
        split
        · next hsigma =>
            rw [hfirst (eq_of_beq hsigma), if_pos (beq_self_eq_true d)]
        · exact Nat.zero_le _
      · rw [if_neg hc, if_neg hc]

theorem count_lowerBetween_lt {start rest : List Char}
    (h : Turns d before after before' after' (start ++ 'Σ' :: rest))
    (hold : lowerSigma (start.reverse ++ before) (rest ++ after) ≠ d)
    (hnew : lowerSigma (start.reverse ++ before') (rest ++ after') = d) :
    (lowerBetween before after (start ++ 'Σ' :: rest)).count d <
      (lowerBetween before' after' (start ++ 'Σ' :: rest)).count d := by
  have hstart : Turns d before ('Σ' :: rest ++ after) before' ('Σ' :: rest ++ after') start := by
    intro start' rest' heq
    have happend := h start' (rest' ++ 'Σ' :: rest) (by rw [heq, List.append_assoc]; rfl)
    simpa only [List.append_assoc] using happend
  have hrest : Turns d ('Σ' :: (start.reverse ++ before)) after
      ('Σ' :: (start.reverse ++ before')) after' rest := by
    intro start' rest' heq
    have happend := h (start ++ 'Σ' :: start') rest' (by rw [heq]; simp)
    simpa using happend
  have hstart := count_lowerBetween_le hstart
  have hrest := count_lowerBetween_le hrest
  rw [lowerBetween_append, lowerBetween_append, lowerBetween, lowerBetween, if_pos rfl, if_pos rfl]
  simp only [List.count_append, List.count_singleton, beq_iff_eq, if_neg hold, if_pos hnew]
  omega

end Turns

theorem turns_final (before after cs : List Char) : Turns 'ς' before after before [] cs := by
  intro start rest _ hsigma
  rcases lowerSigma_eq_final_iff.mp hsigma with ⟨hbefore, hafter⟩
  apply lowerSigma_eq_final_iff.mpr
  rw [List.append_nil]
  exact ⟨hbefore, meetsCased_of_append_eq_false hafter⟩

theorem turns_inner (before after cs : List Char) : Turns 'σ' before after [] after cs := by
  intro start rest _ hsigma
  apply lowerSigma_eq_inner_iff.mpr
  rw [List.append_nil]
  exact (lowerSigma_eq_inner_iff.mp hsigma).imp_left meetsCased_of_append_eq_false

end LetterCase

/-! ## Small sigmas -/

def IsSmallSigma (d : Char) : Prop :=
  d = 'ς' ∨ d = 'σ'

namespace IsSmallSigma

open Decomposition

variable {d : Char} (h : IsSmallSigma d)
include h

theorem toNat_mem : d.toNat ∈ ['ς'.toNat, 'σ'.toNat] := by
  rcases h with rfl | rfl
  · exact List.mem_cons_self
  · exact List.mem_cons_of_mem _ List.mem_cons_self

theorem toNat_not_mem_partCodes : d.toNat ∉ partCodes := by
  have hapart : bits ['ς'.toNat, 'σ'.toNat] &&& bits partCodes = 0 := by
    decide +kernel
  exact not_mem_of_bits hapart h.toNat_mem

theorem decomposeChar_eq : decomposeChar d = [d] := by
  have hapart : bits ['ς'.toNat, 'σ'.toNat] &&& bits composedCodes = 0 := by
    decide +kernel
  apply decomposeChar_of_isSimple
  apply isSimple_of_not_mem (not_mem_of_bits hapart h.toNat_mem)
  rcases h with rfl | rfl
  · decide
  · decide

theorem eq_of_mem_decomposeChar {c : Char} (hd : d ∈ decomposeChar c) : c = d := by
  rcases List.mem_map.mp hd with ⟨part, hpart, rfl⟩
  have hnone := h.toNat_not_mem_partCodes
  have hcode : (Char.ofNat part).toNat = part := by
    rcases toNat_ofNat_or part with hcode | hzero
    · exact hcode
    · have hmem := h.toNat_mem
      rw [hzero] at hmem
      exact absurd hmem (by decide)
  rw [hcode] at hnone
  rcases decompose_cases c.toNat with hsimple | ⟨hsyllable, hparts⟩ | hrow
  · rw [hsimple, List.mem_singleton] at hpart
    rw [hpart, Char.ofNat_toNat]
  · rw [hparts] at hpart
    exact absurd (List.mem_append_left _ (mem_jamoCodes hsyllable hpart)) hnone
  · exact absurd (List.mem_append_right _ (List.mem_flatMap.mpr ⟨_, hrow, hpart⟩)) hnone

theorem isMark_eq : isMark d = false := by
  rcases h with rfl | rfl
  · decide +kernel
  · decide +kernel

theorem isSeparator_eq : isSeparator d = false := by
  rcases h with rfl | rfl
  · decide +kernel
  · decide +kernel

theorem count_decomposeChar (c : Char) : (decomposeChar c).count d = [c].count d := by
  by_cases hc : c = d
  · rw [hc, h.decomposeChar_eq]
  · have hnone : d ∉ decomposeChar c := fun hmem => hc (h.eq_of_mem_decomposeChar hmem)
    rw [List.count_eq_zero_of_not_mem hnone, List.count_singleton, if_neg]
    simpa using hc

theorem count_bare (cs : List Char) : (Fold.bare cs).count d = cs.count d := by
  let plain : Char → Bool := fun c => !isMark c
  have hplain : plain d = true := congrArg Bool.not h.isMark_eq
  have hkept : (Fold.bare cs).count d = (cs.flatMap decomposeChar).count d :=
    List.count_filter hplain
  rw [hkept]
  clear hkept
  induction cs with
  | nil => rfl
  | cons c rest ih =>
      rw [List.flatMap_cons, List.count_append, h.count_decomposeChar, ih, ← List.count_append]
      rfl

theorem count_dashed (started pending : Bool) (cs : List Char) :
    (Fold.dashed started pending cs).count d = cs.count d := by
  have hskip : ∀ c, isSeparator c = true → ∀ rest, (c :: rest).count d = rest.count d := by
    intro c hc rest
    apply List.count_cons_of_ne
    rintro rfl
    rw [h.isSeparator_eq] at hc
    cases hc
  induction cs generalizing started pending with
  | nil => rfl
  | cons c rest ih =>
      unfold Fold.dashed
      split
      · next hc => rw [ih, hskip c hc]
      · split
        · rw [hskip '-' (by decide +kernel), List.count_cons, List.count_cons, ih]
        · rw [List.count_cons, List.count_cons, ih]

theorem count_foldChars (cs : List Char) : (foldChars cs).count d = (lower cs).count d := by
  rw [foldChars_eq, h.count_dashed, h.count_bare]

end IsSmallSigma

namespace Margins

variable {margins : Margins} {part : List Char}

/-- A text that keeps a part when folded has no fewer small sigmas of either form. -/
theorem count_lower_le {text : List Char} {d : Char} (hd : IsSmallSigma d)
    (h : margins.Occurs (foldChars part) (foldChars text)) :
    (lower part).count d ≤ (lower text).count d := by
  have hle := h.count_le d
  rwa [hd.count_foldChars, hd.count_foldChars] at hle

section Lost

variable (h : ∀ text, margins.Occurs part text →
  margins.Occurs (foldChars part) (foldChars text))
include h

theorem not_all_of_meetsCased (hopen : margins.after = true) {start rest : List Char}
    (hpart : part = start ++ 'Σ' :: rest) (hcased : meetsCased start.reverse = true) :
    rest.all isCaseIgnorable = false := by
  rw [← Bool.not_eq_true]
  intro hall
  have hfit : margins.Fit [] ['a'] := ⟨fun _ => rfl, fun hclosed => by simp [hopen] at hclosed⟩
  have hle := count_lower_le (.inl rfl) (h (part ++ ['a']) ⟨[], ['a'], hfit, rfl⟩)
  have hlt : (lowerBetween [] ['a'] part).count 'ς' < (lowerBetween [] [] part).count 'ς' := by
    rw [hpart]
    apply count_lowerBetween_lt (turns_final [] ['a'] _)
    · rw [ne_eq, lowerSigma_eq_final_iff, meetsCased_append rest, if_pos hall]
      rintro ⟨-, hafter⟩
      exact absurd hafter (by decide +kernel)
    · apply lowerSigma_eq_final_iff.mpr
      rw [List.append_nil, List.append_nil]
      exact ⟨hcased, meetsCased_of_all hall⟩
  have hlower : lower (part ++ ['a']) = lowerBetween [] ['a'] part ++ ['a'] := by
    rw [lower_eq_lowerBetween, lowerBetween_append]
    rfl
  rw [hlower, List.count_append, lower_eq_lowerBetween] at hle
  have hnone : ['a'].count 'ς' = 0 := rfl
  omega

theorem not_all_of_not_meetsCased (hopen : margins.before = true) {start rest : List Char}
    (hpart : part = start ++ 'Σ' :: rest) (hcased : meetsCased rest = false) :
    start.reverse.all isCaseIgnorable = false := by
  rw [← Bool.not_eq_true]
  intro hall
  have hfit : margins.Fit ['a'] [] := ⟨fun hclosed => by simp [hopen] at hclosed, fun _ => rfl⟩
  have hle := count_lower_le (.inr rfl) (h (['a'] ++ part) ⟨['a'], [], hfit, by simp⟩)
  have hlt : (lowerBetween ['a'] [] part).count 'σ' < (lowerBetween [] [] part).count 'σ' := by
    rw [hpart]
    apply count_lowerBetween_lt (turns_inner ['a'] [] _)
    · rw [ne_eq, lowerSigma_eq_inner_iff, meetsCased_append, if_pos hall, List.append_nil, hcased]
      decide +kernel
    · apply lowerSigma_eq_inner_iff.mpr
      rw [List.append_nil]
      exact .inl (meetsCased_of_all hall)
  have hlower : lower (['a'] ++ part) = ['a'] ++ lowerBetween ['a'] [] part := by
    rw [lower_eq_lowerBetween, lowerBetween_append]
    rfl
  rw [hlower, List.count_append, lower_eq_lowerBetween] at hle
  have hnone : ['a'].count 'σ' = 0 := rfl
  omega

theorem settles_of_kept : margins.Settles part := by
  intro start rest hpart before after hfit
  have hafter : meetsCased start.reverse = true →
      meetsCased (rest ++ after) = meetsCased rest := by
    intro hcased
    cases hopen : margins.after with
    | false => rw [hfit.after hopen, List.append_nil]
    | true => exact meetsCased_append_of_not_all (not_all_of_meetsCased h hopen hpart hcased) after
  have hbefore : meetsCased rest = false →
      meetsCased (start.reverse ++ before) = meetsCased start.reverse := by
    intro hcased
    cases hopen : margins.before with
    | false => rw [hfit.before hopen, List.append_nil]
    | true =>
        exact meetsCased_append_of_not_all (not_all_of_not_meetsCased h hopen hpart hcased) before
  unfold lowerSigma
  cases hstart : meetsCased start.reverse with
  | true => rw [meetsCased_append_of_meetsCased hstart, hafter hstart]
  | false =>
      cases hrest : meetsCased rest with
      | true => rw [meetsCased_append_of_meetsCased hrest, Bool.not_true, Bool.and_false]; rfl
      | false => rw [hbefore hrest, hstart, Bool.false_and, Bool.false_and]

end Lost

/-- The sigmas of a part are settled exactly if no text loses the part by folding. -/
theorem settles_iff : margins.Settles part ↔
    ∀ text, margins.Occurs part text → margins.Occurs (foldChars part) (foldChars text) := by
  constructor
  · intro hsettles text h
    exact h.foldChars hsettles
  · exact settles_of_kept

end Margins

end RecordFilter
