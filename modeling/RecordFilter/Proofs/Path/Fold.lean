import RecordFilter.Proofs.Path.Collection
import RecordFilter.Proofs.Value.Fold

/-!
# Paths in folded values

A path takes the same way through a value and through its folded form, since folding keeps
arrays, fields and string keys.  It ends at the folded form of what it leads to, or at the
default value in both.
-/

namespace RecordFilter

namespace Path

theorem folded_ne_array {v : Value} (h : ∀ items, v ≠ .array items) (items : List Value) :
    v.folded ≠ .array items := by
  intro hfolded
  have harray := Value.array?_folded v
  rw [hfolded] at harray
  cases v with
  | array items => exact h items rfl
  | _ => cases harray

theorem collect_folded (v : Value) (path : Path) :
    collect v.folded path = (collect v path).map Value.folded := by
  cases path with
  | nil =>
      rw [collect_nil, collect_nil, Value.array?_folded]
      cases v.array? with
      | none => rfl
      | some items => rfl
  | cons name more =>
      by_cases harray : ∃ items, v = .array items
      · rcases harray with ⟨items, hitems⟩
        rw [hitems, Value.folded_array, collect_array, collect_array, List.flatMap_map,
          List.map_flatMap]
        refine List.flatMap_congr fun item hitem => ?_
        exact collect_folded item (name :: more)
      · have hv : ∀ items, v ≠ .array items := fun items heq => harray ⟨items, heq⟩
        cases hget : v.get? name with
        | some child =>
            have hfolded : v.folded.get? name = some child.folded := by
              rw [Value.get?_folded, hget]
              rfl
            rw [collect_of_get?_some hfolded, collect_of_get?_some hget]
            exact collect_folded child more
        | none =>
            have hfolded : v.folded.get? name = none := by
              rw [Value.get?_folded, hget]
              rfl
            rw [collect_of_get?_none (folded_ne_array hv) hfolded, collect_of_get?_none hv hget]
            rfl
termination_by sizeOf v
decreasing_by
  · have hlt := List.sizeOf_lt_of_mem hitem
    simp only [hitems, Value.array.sizeOf_spec]
    omega
  · exact sizeOf_get?_lt hget

def Trail.folded : Trail → Trail
  | .reached v => .reached v.folded
  | .missing => .missing
  | .forked items rest => .forked (items.map Value.folded) rest

theorem trail_folded (v : Value) (path : Path) : trail v.folded path = (trail v path).folded := by
  induction path generalizing v with
  | nil => rfl
  | cons name more ih =>
      by_cases harray : ∃ items, v = .array items
      · rcases harray with ⟨items, rfl⟩
        rw [Value.folded_array]
        rfl
      · have hv : ∀ items, v ≠ .array items := fun items heq => harray ⟨items, heq⟩
        cases hget : v.get? name with
        | some child =>
            have hfolded : v.folded.get? name = some child.folded := by
              rw [Value.get?_folded, hget]
              rfl
            rw [trail_of_get?_some hfolded, trail_of_get?_some hget, ih]
        | none =>
            have hfolded : v.folded.get? name = none := by
              rw [Value.get?_folded, hget]
              rfl
            rw [trail_of_get?_none (folded_ne_array hv) hfolded, trail_of_get?_none hv hget]
            rfl

/-- What is found in a folded value has the same folded form, and the walk branches alike. -/
theorem resolve_folded (root : Value) (path : Path) (default : Value) :
    (resolve root.folded path default).value.folded =
        (resolve root path default).value.folded ∧
      (resolve root.folded path default).branched = (resolve root path default).branched := by
  rw [resolve_eq_resolved, resolve_eq_resolved, trail_folded]
  cases trail root path with
  | reached v => exact ⟨Value.folded_folded v, rfl⟩
  | missing => exact ⟨rfl, rfl⟩
  | forked items rest =>
      refine ⟨?_, rfl⟩
      show (Value.array (collect (.array (items.map Value.folded)) rest)).folded =
        (Value.array (collect (.array items) rest)).folded
      rw [← Value.folded_array, collect_folded, ← Value.folded_array, Value.folded_folded]

end Path
end RecordFilter
