import RecordFilter.Proofs.Text.Fold

/-!
# Parts of folded texts

What occurs in a text still occurs in it when both are folded: trimming, decomposing and writing
dashes treat a part as they treat it alone, but for a dash that may come to stand before it.

Lower-casing looks around, though.  A capital sigma becomes the final form of the letter at the
end of a word, so its lower case in a part can differ from the one in the text.  The main
statement is that nothing else can go wrong.
-/

namespace RecordFilter

/-! ## Parts -/

structure Margins where
  before : Bool
  after : Bool

namespace Margins

/-- What may stand before a part and after it. -/
structure Fit (margins : Margins) (before after : List Char) : Prop where
  before : margins.before = false → before = []
  after : margins.after = false → after = []

theorem Fit.of_imp {margins : Margins} {before after before' after' : List Char}
    (h : margins.Fit before after) (hbefore : before = [] → before' = [])
    (hafter : after = [] → after' = []) : margins.Fit before' after' := by
  constructor
  · intro hclosed
    exact hbefore (h.before hclosed)
  · intro hclosed
    exact hafter (h.after hclosed)

def Occurs (margins : Margins) (part text : List Char) : Prop :=
  ∃ before after, margins.Fit before after ∧ text = before ++ part ++ after

variable {margins : Margins} {part text : List Char}

theorem occurs_refl (margins : Margins) (text : List Char) : margins.Occurs text text :=
  ⟨[], [], ⟨fun _ => rfl, fun _ => rfl⟩, (List.append_nil text).symm⟩

theorem Occurs.trans {whole : List Char} (h : margins.Occurs part text)
    (hwhole : margins.Occurs text whole) : margins.Occurs part whole := by
  rcases h with ⟨before, after, hfit, rfl⟩
  rcases hwhole with ⟨before', after', hfit', rfl⟩
  refine ⟨before' ++ before, after ++ after', ?_, by simp only [List.append_assoc]⟩
  constructor
  · intro hclosed
    rw [hfit.before hclosed, hfit'.before hclosed, List.append_nil]
  · intro hclosed
    rw [hfit.after hclosed, hfit'.after hclosed, List.append_nil]

theorem Occurs.count_le (h : margins.Occurs part text) (c : Char) :
    part.count c ≤ text.count c := by
  rcases h with ⟨before, after, -, rfl⟩
  rw [List.count_append, List.count_append]
  omega

end Margins

/-! ## Lower case between two texts -/

namespace LetterCase

theorem meetsCased_append (cs ds : List Char) :
    meetsCased (cs ++ ds) = if cs.all isCaseIgnorable then meetsCased ds else meetsCased cs := by
  induction cs with
  | nil => rfl
  | cons c rest ih =>
      cases hc : isCaseIgnorable c with
      | true =>
          have hskip : ∀ es, meetsCased (c :: es) = meetsCased es := by
            intro es
            rw [meetsCased, meetsCased, List.dropWhile_cons, if_pos hc]
          rw [List.cons_append, hskip, hskip, ih, List.all_cons, hc, Bool.true_and]
      | false =>
          have hstop : ∀ es, meetsCased (c :: es) = isCased c := by
            intro es
            rw [meetsCased, List.dropWhile_cons, if_neg (Bool.eq_false_iff.mp hc)]
          rw [List.cons_append, hstop, hstop, List.all_cons, hc, Bool.false_and,
            if_neg Bool.false_ne_true]

theorem meetsCased_of_all {cs : List Char} (h : cs.all isCaseIgnorable = true) :
    meetsCased cs = false := by
  have happend := meetsCased_append cs []
  rw [List.append_nil, if_pos h] at happend
  rw [happend]
  rfl

theorem meetsCased_append_of_not_all {cs : List Char} (h : cs.all isCaseIgnorable = false)
    (ds : List Char) : meetsCased (cs ++ ds) = meetsCased cs := by
  rw [meetsCased_append, if_neg (Bool.eq_false_iff.mp h)]

theorem meetsCased_append_of_meetsCased {cs : List Char} (h : meetsCased cs = true)
    (ds : List Char) : meetsCased (cs ++ ds) = true := by
  cases hall : cs.all isCaseIgnorable with
  | true =>
      rw [meetsCased_of_all hall] at h
      cases h
  | false => rw [meetsCased_append_of_not_all hall, h]

theorem meetsCased_of_append_eq_false {cs ds : List Char} (h : meetsCased (cs ++ ds) = false) :
    meetsCased cs = false := by
  cases hcs : meetsCased cs with
  | true =>
      rw [meetsCased_append_of_meetsCased hcs] at h
      cases h
  | false => rfl

/-- Lower-case the text between `before`, which is read backwards, and `after`. -/
def lowerBetween (before after : List Char) : List Char → List Char
  | [] => []
  | c :: rest =>
      (if c = 'Σ' then [lowerSigma before (rest ++ after)] else lowerChar c) ++
        lowerBetween (c :: before) after rest

theorem lowerBetween_nil_right (before cs : List Char) :
    lowerBetween before [] cs = lowerAfter before cs := by
  induction cs generalizing before with
  | nil => rfl
  | cons c rest ih => rw [lowerBetween, lowerAfter, List.append_nil, ih]

theorem lower_eq_lowerBetween (cs : List Char) : lower cs = lowerBetween [] [] cs :=
  (lowerBetween_nil_right [] cs).symm

theorem lowerBetween_append (before after cs ds : List Char) :
    lowerBetween before after (cs ++ ds) =
      lowerBetween before (ds ++ after) cs ++ lowerBetween (cs.reverse ++ before) after ds := by
  induction cs generalizing before with
  | nil => rfl
  | cons c rest ih =>
      rw [List.cons_append, lowerBetween, lowerBetween, ih, List.reverse_cons]
      simp only [List.append_assoc, List.singleton_append]

/-- The lower case depends on what stands around through the capital sigmas only. -/
theorem lowerBetween_congr {cs before after before' after' : List Char}
    (h : ∀ start rest, cs = start ++ 'Σ' :: rest →
      lowerSigma (start.reverse ++ before) (rest ++ after) =
        lowerSigma (start.reverse ++ before') (rest ++ after')) :
    lowerBetween before after cs = lowerBetween before' after' cs := by
  induction cs generalizing before before' with
  | nil => rfl
  | cons c rest ih =>
      have hrest : lowerBetween (c :: before) after rest =
          lowerBetween (c :: before') after' rest := by
        apply ih
        intro start rest' heq
        have hcons := h (c :: start) rest' (by rw [heq, List.cons_append])
        simpa only [List.reverse_cons, List.append_assoc, List.singleton_append] using hcons
      rw [lowerBetween, lowerBetween, hrest]
      by_cases hc : c = 'Σ'
      · have hfirst := h [] rest (by rw [hc, List.nil_append])
        rw [if_pos hc, if_pos hc]
        exact congrArg (fun d => [d] ++ _) hfirst
      · rw [if_neg hc, if_neg hc]

end LetterCase

/-! ## White space -/

namespace Space

def codes : List Nat :=
  table.toList.flatMap fun row =>
    (List.range ((row.2.1 - row.1) / row.2.2 + 1)).map fun i => row.1 + i * row.2.2

theorem mem_codes {c : Char} (h : isSpace c = true) : c.toNat ∈ codes := by
  unfold isSpace CodeTable.hasChar CodeTable.has at h
  cases hrow : CodeTable.row? Prod.fst table c.toNat with
  | none =>
      rw [hrow] at h
      cases h
  | some row =>
      rcases row with ⟨first, last, step⟩
      rcases CodeTable.mem_of_row? hrow with ⟨hmem, hfirst⟩
      simp only [hrow, Bool.and_eq_true, decide_eq_true_iff, beq_iff_eq] at h
      refine List.mem_flatMap.mpr ⟨_, Array.mem_toList_iff.mpr hmem, List.mem_map.mpr ?_⟩
      refine ⟨(c.toNat - first) / step, List.mem_range.mpr ?_, ?_⟩
      · exact Nat.lt_succ_of_le (Nat.div_le_div_right (Nat.sub_le_sub_right h.1 first))
      · have hcode := Nat.div_add_mod (c.toNat - first) step
        rw [h.2, Nat.mul_comm] at hcode
        show first + (c.toNat - first) / step * step = c.toNat
        dsimp only at hfirst
        omega

end Space

namespace Fold

open LetterCase Decomposition

structure IsBlank (c : Char) : Prop where
  not_cased : isCased c = false
  not_ignorable : isCaseIgnorable c = false
  not_sigma : c ≠ 'Σ'
  lowerChar : lowerChar c = [c]
  parts : ∀ d ∈ decomposeChar c, isSeparator d = true

theorem isBlank_of_isSpace {c : Char} (h : isSpace c = true) : IsBlank c := by
  have hcode := Space.mem_codes h
  have hall : ∀ code ∈ Space.codes,
      isCased (Char.ofNat code) = false ∧ isCaseIgnorable (Char.ofNat code) = false ∧
        Char.ofNat code ≠ 'Σ' ∧ LetterCase.lowerChar (Char.ofNat code) = [Char.ofNat code] ∧
          ¬ (0xAC00 ≤ code ∧ code ≤ 0xD7A3) := by
    decide +kernel
  have hrows : ∀ row ∈ rows, (bits Space.codes).testBit row.1 = true →
      ∀ part ∈ row.2, isSeparator (Char.ofNat part) = true := by
    decide +kernel
  have hc := hall c.toNat hcode
  rw [Char.ofNat_toNat] at hc
  rcases hc with ⟨hcased, hignorable, hsigma, hlower, hhangul⟩
  refine ⟨hcased, hignorable, hsigma, hlower, ?_⟩
  intro d hd
  rcases List.mem_map.mp hd with ⟨part, hpart, rfl⟩
  rcases decompose_cases c.toNat with hsimple | ⟨hsyllable, -⟩ | hrow
  · rw [hsimple, List.mem_singleton] at hpart
    rw [hpart, Char.ofNat_toNat, isSeparator, h, Bool.true_or]
  · exact absurd hsyllable hhangul
  · exact hrows _ hrow (testBit_bits.mpr hcode) part hpart

section Blank

variable {cs : List Char} (h : ∀ c ∈ cs, IsBlank c)
include h

theorem meetsCased_of_isBlank : meetsCased cs = false := by
  cases cs with
  | nil => rfl
  | cons c rest =>
      have hc := h c List.mem_cons_self
      rw [meetsCased, List.dropWhile_cons, hc.not_ignorable, if_neg Bool.false_ne_true]
      exact hc.not_cased

theorem meetsCased_append_of_isBlank (ds : List Char) :
    meetsCased (ds ++ cs) = meetsCased ds := by
  rw [meetsCased_append, meetsCased_of_isBlank h]
  split
  · next hall => exact (meetsCased_of_all hall).symm
  · rfl

theorem lowerBetween_of_isBlank (before after : List Char) :
    lowerBetween before after cs = cs := by
  induction cs generalizing before with
  | nil => rfl
  | cons c rest ih =>
      have hc := h c List.mem_cons_self
      rw [lowerBetween, if_neg hc.not_sigma, hc.lowerChar,
        ih fun d hd => h d (List.mem_cons_of_mem c hd)]
      rfl

end Blank

/-! ## What is left of a text without marks -/

def bare (cs : List Char) : List Char :=
  (cs.flatMap decomposeChar).filter (!isMark ·)

theorem bare_append (cs ds : List Char) : bare (cs ++ ds) = bare cs ++ bare ds := by
  rw [bare, List.flatMap_append, List.filter_append]
  rfl

theorem isSeparator_of_mem_bare {cs : List Char} (h : ∀ c ∈ cs, IsBlank c) :
    ∀ d ∈ bare cs, isSeparator d = true := by
  intro d hd
  rcases List.mem_flatMap.mp (List.mem_of_mem_filter hd) with ⟨c, hc, hpart⟩
  exact (h c hc).parts d hpart

/-! ## Dashes between words -/

def reading (state : Bool × Bool) (c : Char) : Bool × Bool :=
  if isSeparator c then (state.1, true) else (true, false)

theorem dashed_append (started pending : Bool) (cs ds : List Char) :
    dashed started pending (cs ++ ds) =
      let state := cs.foldl reading (started, pending)
      dashed started pending cs ++ dashed state.1 state.2 ds := by
  induction cs generalizing started pending with
  | nil => rfl
  | cons c rest ih =>
      rw [List.cons_append, List.foldl_cons, dashed, dashed, reading]
      cases hc : isSeparator c with
      | true =>
          rw [if_pos rfl, if_pos rfl, if_pos rfl]
          exact ih started true
      | false =>
          rw [if_neg Bool.false_ne_true, if_neg Bool.false_ne_true, if_neg Bool.false_ne_true, ih]
          cases pending && started with
          | true => rfl
          | false => rfl

theorem dashed_separators {cs : List Char} (h : ∀ c ∈ cs, isSeparator c = true)
    (started pending : Bool) : dashed started pending cs = [] := by
  induction cs generalizing pending with
  | nil => rfl
  | cons c rest ih =>
      rw [dashed, if_pos (h c List.mem_cons_self)]
      exact ih (fun d hd => h d (List.mem_cons_of_mem c hd)) true

theorem dashed_words {cs : List Char} (h : ∀ c ∈ cs, isSeparator c = false)
    (started : Bool) : dashed started false cs = cs := by
  induction cs generalizing started with
  | nil => rfl
  | cons c rest ih =>
      rw [dashed, h c List.mem_cons_self, Bool.false_and, if_neg Bool.false_ne_true,
        if_neg Bool.false_ne_true, ih fun d hd => h d (List.mem_cons_of_mem c hd)]

theorem reading_separators {cs : List Char} (h : ∀ c ∈ cs, isSeparator c = true)
    (state : Bool × Bool) : (cs.foldl reading state).1 = state.1 := by
  induction cs generalizing state with
  | nil => rfl
  | cons c rest ih =>
      rw [List.foldl_cons, ih fun d hd => h d (List.mem_cons_of_mem c hd), reading,
        if_pos (h c List.mem_cons_self)]

theorem dashed_not_started (pending : Bool) (cs : List Char) :
    dashed false pending cs = dashed false false cs := by
  cases cs with
  | nil => rfl
  | cons c rest => rw [dashed, dashed, Bool.and_false, Bool.and_false]

/-- Wherever the writer stands, it writes a text as by itself, but for a dash before it. -/
theorem dashed_eq_append (started pending : Bool) (cs : List Char) :
    ∃ dash, (started = false → dash = []) ∧
      dashed started pending cs = dash ++ dashed false false cs := by
  cases started with
  | false => exact ⟨[], fun _ => rfl, dashed_not_started pending cs⟩
  | true =>
      induction cs generalizing pending with
      | nil => exact ⟨[], fun _ => rfl, rfl⟩
      | cons c rest ih =>
          cases hc : isSeparator c with
          | true =>
              rw [dashed, dashed, if_pos hc, if_pos hc, dashed_not_started]
              exact ih true
          | false =>
              rw [dashed_word hc, dashed, hc, if_neg Bool.false_ne_true]
              cases pending with
              | true => exact ⟨['-'], Bool.noConfusion, rfl⟩
              | false => exact ⟨[], Bool.noConfusion, rfl⟩

end Fold

/-! ## Folding without trimming -/

open LetterCase Fold

theorem trim_eq (cs : List Char) :
    ∃ front back, cs = front ++ trim cs ++ back ∧ (∀ c ∈ front, isSpace c = true) ∧
      ∀ c ∈ back, isSpace c = true := by
  let rest := trimStart cs
  refine ⟨cs.takeWhile isSpace, (rest.reverse.takeWhile isSpace).reverse, ?_, ?_, ?_⟩
  · have hback : trim cs ++ (rest.reverse.takeWhile isSpace).reverse = rest := by
      rw [trim, ← List.reverse_append, trimStart, List.takeWhile_append_dropWhile,
        List.reverse_reverse]
    rw [List.append_assoc, hback]
    exact List.takeWhile_append_dropWhile.symm
  · exact List.all_eq_true.mp List.all_takeWhile
  · intro c hc
    exact List.all_eq_true.mp List.all_takeWhile c (List.mem_reverse.mp hc)

theorem foldChars_eq (cs : List Char) : foldChars cs = dashed false false (bare (lower cs)) := by
  rcases trim_eq cs with ⟨front, back, heq, hfront, hback⟩
  have hfront : ∀ c ∈ front, IsBlank c := fun c hc => isBlank_of_isSpace (hfront c hc)
  have hback : ∀ c ∈ back, IsBlank c := fun c hc => isBlank_of_isSpace (hback c hc)
  have hmiddle : lowerBetween front.reverse back (trim cs) = lower (trim cs) := by
    rw [lower_eq_lowerBetween]
    apply lowerBetween_congr
    intro start rest _
    have hreverse : ∀ c ∈ front.reverse, IsBlank c := fun c hc =>
      hfront c (List.mem_reverse.mp hc)
    simp only [lowerSigma, meetsCased_append_of_isBlank hreverse,
      meetsCased_append_of_isBlank hback, List.append_nil]
  have hlower : lower cs = front ++ lower (trim cs) ++ back := by
    rw [lower_eq_lowerBetween]
    nth_rewrite 1 [heq]
    rw [lowerBetween_append, lowerBetween_append, lowerBetween_of_isBlank hfront,
      lowerBetween_of_isBlank hback]
    simp only [List.append_nil, hmiddle]
  have hends := isSeparator_of_mem_bare hfront
  rw [hlower, bare_append, bare_append, List.append_assoc, dashed_append]
  simp only [dashed_separators hends, reading_separators hends, List.nil_append]
  rw [dashed_not_started, dashed_append]
  simp only [dashed_separators (isSeparator_of_mem_bare hback), List.append_nil]
  rfl

/-! ## Parts with settled sigmas -/

namespace Margins

variable {margins : Margins} {part text : List Char}

/-- What stands around the part makes no difference to the lower case of a capital sigma in it. -/
def Settles (margins : Margins) (part : List Char) : Prop :=
  ∀ start rest, part = start ++ 'Σ' :: rest → ∀ before after, margins.Fit before after →
    lowerSigma (start.reverse ++ before) (rest ++ after) = lowerSigma start.reverse rest

theorem settles_of_not_mem (h : 'Σ' ∉ part) : margins.Settles part := by
  rintro start rest rfl
  exact absurd (List.mem_append_right start List.mem_cons_self) h

theorem Occurs.lower (h : margins.Occurs part text) (hsettles : margins.Settles part) :
    margins.Occurs (lower part) (lower text) := by
  rcases h with ⟨before, after, hfit, rfl⟩
  have hpart : lowerBetween before.reverse after part = LetterCase.lower part := by
    rw [lower_eq_lowerBetween]
    apply lowerBetween_congr
    intro start rest heq
    have hreverse : margins.Fit before.reverse after := hfit.of_imp List.reverse_eq_nil_iff.mpr id
    rw [List.append_nil, List.append_nil]
    exact hsettles start rest heq _ _ hreverse
  refine ⟨lowerBetween [] (part ++ after) before,
    lowerBetween (part.reverse ++ before.reverse) [] after, ?_, ?_⟩
  · apply hfit.of_imp
    · rintro rfl
      rfl
    · rintro rfl
      rfl
  · rw [lower_eq_lowerBetween, lowerBetween_append, lowerBetween_append]
    simp only [List.append_nil, hpart, List.reverse_append]

theorem Occurs.bare (h : margins.Occurs part text) :
    margins.Occurs (bare part) (bare text) := by
  rcases h with ⟨before, after, hfit, rfl⟩
  refine ⟨Fold.bare before, Fold.bare after, ?_, by rw [bare_append, bare_append]⟩
  apply hfit.of_imp
  · rintro rfl
    rfl
  · rintro rfl
    rfl

theorem Occurs.dashed (h : margins.Occurs part text) :
    margins.Occurs (dashed false false part) (dashed false false text) := by
  rcases h with ⟨before, after, hfit, rfl⟩
  let ahead := before.foldl reading (false, false)
  let behind := (before ++ part).foldl reading (false, false)
  rcases dashed_eq_append ahead.1 ahead.2 part with ⟨dash, hdash, hwritten⟩
  refine ⟨Fold.dashed false false before ++ dash, Fold.dashed behind.1 behind.2 after, ?_, ?_⟩
  · apply hfit.of_imp
    · rintro rfl
      rw [hdash rfl]
      rfl
    · rintro rfl
      rfl
  · rw [dashed_append, dashed_append]
    show Fold.dashed false false before ++ Fold.dashed ahead.1 ahead.2 part ++ _ = _
    rw [hwritten, ← List.append_assoc]

/-- A part with settled sigmas occurs in a folded text as it occurs in the text. -/
theorem Occurs.foldChars (h : margins.Occurs part text) (hsettles : margins.Settles part) :
    margins.Occurs (foldChars part) (foldChars text) := by
  rw [foldChars_eq, foldChars_eq]
  exact (h.lower hsettles).bare.dashed

end Margins

end RecordFilter
