import RecordFilter.Proofs.Text.Fold
import RecordFilter.Proofs.Text.Split

/-!
# Folded texts as words

The words of a text are its runs of characters between white space and dashes.  Writing the
characters with dashes keeps the words and nothing else: one dash comes between a word and the
next.

So a folded text is made of the words of the lower-case text without marks.  As no word is
empty or has a dash in it, splitting a folded text at its dashes gives the words back, and
there is nowhere a dash too many.
-/

namespace RecordFilter

/-- The words of a text: its runs of characters that are neither white space nor dashes. -/
def words (cs : List Char) : List (List Char) :=
  (cs.splitOnP isSeparator).filter (· ≠ [])

/-! ## Words -/

theorem mem_words {cs word : List Char} (h : word ∈ words cs) :
    word ≠ [] ∧ ∀ c ∈ word, isSeparator c = false := by
  rcases List.mem_filter.mp h with ⟨hpiece, hne⟩
  constructor
  · exact of_decide_eq_true hne
  · intro c hc
    exact not_of_mem_splitOnP hpiece hc

theorem dash_not_mem_word {cs word : List Char} (h : word ∈ words cs) : '-' ∉ word := by
  intro hdash
  have hword := (mem_words h).2 '-' hdash
  rw [isSeparator, Bool.or_eq_false_iff] at hword
  exact absurd hword.2 (by decide)

theorem words_separator {c : Char} (h : isSeparator c = true) (cs : List Char) :
    words (c :: cs) = words cs := by
  rw [words, List.splitOnP_cons_eq_if_modifyHead, if_pos h]
  rfl

theorem splitOnP_word {c : Char} (h : isSeparator c = false) {cs piece : List Char}
    {pieces : List (List Char)} (hsplit : cs.splitOnP isSeparator = piece :: pieces) :
    (c :: cs).splitOnP isSeparator = (c :: piece) :: pieces := by
  rw [List.splitOnP_cons_eq_if_modifyHead, h, hsplit, List.modifyHead_cons]
  rfl

theorem words_word {c : Char} (h : isSeparator c = false) {cs piece : List Char}
    {pieces : List (List Char)} (hsplit : cs.splitOnP isSeparator = piece :: pieces) :
    words (c :: cs) = (c :: piece) :: pieces.filter (· ≠ []) := by
  rw [words, splitOnP_word h hsplit]
  rfl

/-! ## Words with dashes between them -/

theorem intercalate_dash (word : List Char) (others : List (List Char)) :
    ['-'].intercalate (word :: others) = word ++ others.flatMap ('-' :: ·) := by
  induction others generalizing word with
  | nil => simp
  | cons next rest ih =>
      rw [List.intercalate_cons_cons, ih, List.flatMap_cons]
      simp

namespace Fold

/-- A word that has been started is written to its end, and then every other word with a dash. -/
theorem dashed_started {cs piece : List Char} {pieces : List (List Char)}
    (h : cs.splitOnP isSeparator = piece :: pieces) :
    dashed true true cs = (words cs).flatMap ('-' :: ·) ∧
      dashed true false cs = piece ++ (pieces.filter (· ≠ [])).flatMap ('-' :: ·) := by
  induction cs generalizing piece pieces with
  | nil =>
      cases h
      constructor
      · rfl
      · rfl
  | cons c rest ih =>
      rcases List.exists_cons_of_ne_nil (List.splitOnP_ne_nil isSeparator rest) with
        ⟨head, others, hrest⟩
      rcases ih hrest with ⟨hpending, hopen⟩
      cases hc : isSeparator c with
      | true =>
          rw [List.splitOnP_cons_eq_if_modifyHead, if_pos hc] at h
          cases h
          rw [words_separator hc, dashed, dashed, if_pos hc, if_pos hc]
          exact ⟨hpending, hpending⟩
      | false =>
          rw [splitOnP_word hc hrest] at h
          cases h
          rw [words_word hc hrest, dashed_word hc, dashed_word hc, hopen]
          constructor
          · rfl
          · rfl

theorem dashed_eq_intercalate (pending : Bool) (cs : List Char) :
    dashed false pending cs = ['-'].intercalate (words cs) := by
  induction cs generalizing pending with
  | nil => rfl
  | cons c rest ih =>
      cases hc : isSeparator c with
      | true =>
          rw [dashed, if_pos hc, words_separator hc]
          exact ih true
      | false =>
          rcases List.exists_cons_of_ne_nil (List.splitOnP_ne_nil isSeparator rest) with
            ⟨piece, pieces, hrest⟩
          rw [dashed, hc, Bool.and_false, words_word hc hrest, intercalate_dash,
            (dashed_started hrest).2]
          rfl

end Fold

/-! ## Folded texts -/

theorem foldChars_eq_intercalate (cs : List Char) :
    foldChars cs = ['-'].intercalate (words (Fold.bareLower cs)) :=
  Fold.dashed_eq_intercalate false (Fold.bareLower cs)

theorem nil_not_mem_splitOn {cs : List Char} (h : foldChars cs ≠ []) :
    [] ∉ (foldChars cs).splitOn '-' := by
  rw [foldChars_eq_intercalate] at h ⊢
  have hne : words (Fold.bareLower cs) ≠ [] := by
    intro hnone
    rw [hnone] at h
    exact h rfl
  rw [List.splitOn_intercalate '-' (fun word hword => dash_not_mem_word hword) hne]
  intro hnil
  exact (mem_words hnil).1 rfl

/-- Between two dashes, and between a dash and either end, there is a word. -/
theorem foldChars_ne_append {cs before after : List Char}
    (hsplit : [] ∈ before.splitOn '-' ∨ [] ∈ after.splitOn '-') :
    foldChars cs ≠ before ++ '-' :: after := by
  intro heq
  have hne : foldChars cs ≠ [] := by
    rw [heq]
    exact List.append_ne_nil_of_right_ne_nil before (List.cons_ne_nil '-' after)
  apply nil_not_mem_splitOn hne
  rw [heq, List.splitOn_append_cons_self, List.mem_append]
  exact hsplit

/--
A folded text has no white space, no marks, no two dashes in a row and no dash at either end.
It is made of the words of the trimmed text in lower case, decomposed and without marks, with
one dash between a word and the next, and folding it once more changes nothing.
-/
theorem foldText_canonical (text : String) :
    let folded := (foldText text).toList
    (∀ c ∈ folded, isSpace c = false ∧ isMark c = false) ∧
      ¬ ['-', '-'] <:+: folded ∧ folded.head? ≠ some '-' ∧ folded.getLast? ≠ some '-' ∧
      folded = ['-'].intercalate (words (Fold.bareLower text.toList)) ∧
      foldText (foldText text) = foldText text := by
  intro folded
  have hfolded : folded = foldChars text.toList := String.toList_ofList
  have hnil : [] ∈ ([] : List Char).splitOn '-' := List.mem_singleton.mpr rfl
  rw [hfolded]
  refine ⟨?_, ?_, ?_, ?_, foldChars_eq_intercalate text.toList, foldText_foldText text⟩
  · intro c hc
    rcases not_isSpace_of_mem_foldChars hc with ⟨hspace, hbare⟩
    exact ⟨hspace, hbare.not_mark⟩
  · rintro ⟨before, after, heq⟩
    have hafter : [] ∈ ('-' :: after).splitOn '-' := List.mem_cons_self
    rw [List.append_assoc] at heq
    exact foldChars_ne_append (.inr hafter) heq.symm
  · intro hhead
    rcases List.head?_eq_some_iff.mp hhead with ⟨after, heq⟩
    exact foldChars_ne_append (.inl hnil) heq
  · intro hlast
    rcases List.getLast?_eq_some_iff.mp hlast with ⟨before, heq⟩
    exact foldChars_ne_append (.inr hnil) heq

end RecordFilter
