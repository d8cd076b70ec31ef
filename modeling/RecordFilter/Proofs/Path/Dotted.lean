import RecordFilter.Path
import RecordFilter.Proofs.Text.Split

/-!
# Dotted paths

A path is written with a dot between a name and the next.  When a text is read, its dots do
nothing but separate: what stands before a dot and what stands behind it is read on its own, and
between two dots, or between a dot and an end, there is nothing to read.

So only plain names are read, which are not empty and have no dot in them, and a path of plain
names is read back from what is written.
-/

namespace RecordFilter

namespace Path

/-- The name can be told apart from others by dots. -/
def IsPlainName (name : String) : Prop :=
  name ≠ "" ∧ '.' ∉ name.toList

instance : DecidablePred IsPlainName :=
  fun _ => inferInstanceAs (Decidable (_ ∧ _))

/-! ## Names -/

theorem isPlainName_of_mem_ofText {text name : String} (h : name ∈ ofText text) :
    IsPlainName name := by
  rcases List.mem_map.mp h with ⟨part, hpart, rfl⟩
  rcases List.mem_filter.mp hpart with ⟨hsplit, hne⟩
  constructor
  · intro hempty
    rw [String.ofList_eq_empty_iff.mp hempty] at hne
    cases hne
  · rw [String.toList_ofList]
    exact mark_not_mem_of_mem_splitAtMark hsplit

theorem ofText_of_isPlainName {name : String} (h : IsPlainName name) : ofText name = [name] := by
  rw [ofText, splitAtMark_of_not_mem h.2]
  cases hchars : name.toList with
  | nil => exact absurd (String.toList_eq_nil_iff.mp hchars) h.1
  | cons c rest =>
      show [String.ofList (c :: rest)] = [name]
      rw [← hchars, String.ofList_toList]

/-! ## Dots -/

theorem ofText_empty : ofText "" = [] := rfl

theorem ofText_append_dot (before behind : String) :
    ofText (before ++ "." ++ behind) = ofText before ++ ofText behind := by
  have htext : (before ++ "." ++ behind).toList = before.toList ++ '.' :: behind.toList := by
    simp [String.toList_append]
  rw [ofText, htext, splitAtMark_append_mark, List.filter_append, List.map_append]
  rfl

def dots : Nat → String
  | 0 => ""
  | n + 1 => "." ++ dots n

theorem ofText_dots_append (n : Nat) (behind : String) :
    ofText (dots n ++ behind) = ofText behind := by
  induction n with
  | zero => rw [dots, String.empty_append]
  | succ n ih =>
      calc
        ofText (dots (n + 1) ++ behind) = ofText ("" ++ "." ++ (dots n ++ behind)) := by
          rw [dots, String.empty_append, String.append_assoc]
        _ = ofText (dots n ++ behind) := by
          rw [ofText_append_dot, ofText_empty, List.nil_append]
        _ = ofText behind := ih

theorem ofText_append_dots (before behind : String) (n : Nat) :
    ofText (before ++ dots (n + 1) ++ behind) = ofText before ++ ofText behind := by
  calc
    ofText (before ++ dots (n + 1) ++ behind) = ofText (before ++ "." ++ (dots n ++ behind)) := by
      rw [dots, String.append_assoc, String.append_assoc, String.append_assoc]
    _ = ofText before ++ ofText behind := by
      rw [ofText_append_dot, ofText_dots_append]

/-! ## Reading what is written -/

theorem ofText_toText {path : Path} (h : ∀ name ∈ path, IsPlainName name) :
    ofText path.toText = path := by
  induction path with
  | nil => rfl
  | cons name rest ih =>
      rcases List.forall_mem_cons.mp h with ⟨hname, hrest⟩
      cases rest with
      | nil =>
          rw [toText, String.intercalate_singleton]
          exact ofText_of_isPlainName hname
      | cons next others =>
          have htext : toText (name :: next :: others) = name ++ "." ++ toText (next :: others) :=
            String.intercalate_cons_cons
          rw [htext, ofText_append_dot, ofText_of_isPlainName hname, ih hrest]
          rfl

/--
A path of plain names is read back from its dotted form.  From any text a path of plain names is
read, which its dotted form gives again, and dots in front of the text, behind it or many in a row
make no difference.
-/
theorem dotted_paths_correspond :
    (∀ path : Path, (∀ name ∈ path, IsPlainName name) → ofText path.toText = path) ∧
    (∀ text : String, (∀ name ∈ ofText text, IsPlainName name) ∧
      ofText (ofText text).toText = ofText text) ∧
    ∀ (before behind : String) (n : Nat),
      ofText (dots n ++ behind) = ofText behind ∧ ofText (before ++ dots n) = ofText before ∧
        ofText (before ++ dots (n + 1) ++ behind) = ofText (before ++ "." ++ behind) := by
  have hplain : ∀ text : String, ∀ name ∈ ofText text, IsPlainName name := by
    intro text name hname
    exact isPlainName_of_mem_ofText hname
  refine ⟨fun path => ofText_toText, ?_, ?_⟩
  · intro text
    exact ⟨hplain text, ofText_toText (hplain text)⟩
  · intro before behind n
    refine ⟨ofText_dots_append n behind, ?_, ?_⟩
    · cases n with
      | zero => rw [dots, String.append_empty]
      | succ n =>
          have hsplit := ofText_append_dots before "" n
          rw [String.append_empty, ofText_empty, List.append_nil] at hsplit
          exact hsplit
    · rw [ofText_append_dots, ofText_append_dot]

theorem dotted_paths_correspond_of_spaces :
    let path : Path := ["home address", " ", "city"]
    (∀ name ∈ path, IsPlainName name) ∧ path.toText = "home address. .city" ∧
      ofText path.toText = path ∧ ofText "..home address. ...city." = path ∧
      ofText (ofText "..home address. ...city.").toText = path := by
  intro path
  have hplain : ∀ name ∈ path, IsPlainName name := by decide
  rcases dotted_paths_correspond with ⟨hwritten, hread, -⟩
  have htext : ofText "..home address. ...city." = path := by decide
  refine ⟨hplain, rfl, hwritten path hplain, htext, ?_⟩
  rw [(hread "..home address. ...city.").2]
  exact htext

end Path
end RecordFilter
