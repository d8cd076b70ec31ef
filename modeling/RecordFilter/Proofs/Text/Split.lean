import RecordFilter.Text.Split

/-!
# Splitting as a list operation

Splitting a text at a mark is the splitting of lists, so the laws of lists hold for it: a mark
separates the parts before it from those behind it, and no part has the mark in it.
-/

namespace RecordFilter

theorem not_of_mem_splitOnP {α : Type} {p : α → Bool} {xs piece : List α}
    (h : piece ∈ xs.splitOnP p) {x : α} (hx : x ∈ piece) : p x = false := by
  induction xs generalizing piece with
  | nil =>
      rw [List.mem_singleton.mp h] at hx
      cases hx
  | cons first rest ih =>
      rcases List.exists_cons_of_ne_nil (List.splitOnP_ne_nil p rest) with
        ⟨head, pieces, hpieces⟩
      rw [List.splitOnP_cons_eq_if_modifyHead, hpieces, List.modifyHead_cons] at h
      rw [hpieces] at ih
      split at h
      · rcases List.mem_cons.mp h with rfl | hlater
        · cases hx
        · exact ih hlater hx
      · next hfirst =>
          rcases List.mem_cons.mp h with rfl | hlater
          · rcases List.mem_cons.mp hx with rfl | hhead
            · exact Bool.eq_false_iff.mpr hfirst
            · exact ih List.mem_cons_self hhead
          · exact ih (List.mem_cons_of_mem head hlater) hx

section Splitting

variable {mark : Char} {cs line : List Char}

theorem splitFrom_eq (part : List Char) :
    splitFrom mark part cs = (cs.splitOn mark).modifyHead (part.reverse ++ ·) := by
  induction cs generalizing part with
  | nil => simp [splitFrom]
  | cons c rest ih =>
      rcases List.exists_cons_of_ne_nil (List.splitOn_ne_nil mark rest) with
        ⟨head, pieces, hpieces⟩
      rw [splitFrom, List.splitOn_cons_eq_if_modifyHead, ih, ih, hpieces]
      by_cases h : c = mark
      · simp [h]
      · simp [h]

theorem splitAtMark_eq_splitOn (mark : Char) (cs : List Char) :
    splitAtMark mark cs = cs.splitOn mark := by
  rw [splitAtMark, splitFrom_eq]
  rcases List.exists_cons_of_ne_nil (List.splitOn_ne_nil mark cs) with ⟨head, pieces, hpieces⟩
  rw [hpieces]
  rfl

theorem mark_not_mem_of_mem_splitAtMark (h : line ∈ splitAtMark mark cs) : mark ∉ line := by
  rw [splitAtMark_eq_splitOn, List.splitOn_eq_splitOnP] at h
  intro hmark
  have hne := not_of_mem_splitOnP h hmark
  rw [beq_self_eq_true] at hne
  cases hne

theorem splitAtMark_append_mark (before behind : List Char) :
    splitAtMark mark (before ++ mark :: behind) =
      splitAtMark mark before ++ splitAtMark mark behind := by
  simp only [splitAtMark_eq_splitOn, List.splitOn_append_cons_self]

theorem splitAtMark_of_not_mem (h : mark ∉ line) : splitAtMark mark line = [line] := by
  rw [splitAtMark_eq_splitOn, List.splitOn_eq_singleton h]

theorem splitAtMark_append (h : mark ∉ line) (rest : List Char) :
    splitAtMark mark (line ++ mark :: rest) = line :: splitAtMark mark rest := by
  rw [splitAtMark_append_mark, splitAtMark_of_not_mem h]
  rfl

end Splitting

end RecordFilter
