import RecordFilter.Text.Split
import RecordFilter.Value.Basic

/-!
# Paths

A path is a list of names that leads from a record to a value in it.  A step goes
to the field of an object or the value under a string key of a map.

When the path meets an array with names left, the walk branches: the names that
are left are followed in every item, and what is found in the branches is gathered
in the order of the items, arrays being flattened by one level.  Before the walk
has branched a missing name leads to the default value; afterwards it contributes
nothing.
-/

namespace RecordFilter

abbrev Path := List String

/-- What a path leads to, and whether the walk branched. -/
structure Resolved where
  value : Value
  branched : Bool

namespace Path

/-! ## Written form -/

/-- Read a path written with dots; empty names do not count. -/
def ofText (text : String) : Path :=
  ((splitAtMark '.' text.toList).filter fun name => !name.isEmpty).map String.ofList

def toText (path : Path) : String :=
  ".".intercalate path

/-! ## Walking -/

/-- A value that is still to be walked through, and the names left to follow in it. -/
abbrev Branch := Value × Path

def fork (items : List Value) (path : Path) : List Branch :=
  items.map fun item => (item, path)

/-- How far a walk has come. -/
structure Walk where
  branched : Bool
  /-- What was gathered in the branches before. -/
  found : List Value
  /-- The branches left, the next one first. -/
  pending : List Branch

namespace Walk

def start (root : Value) (path : Path) : Walk where
  branched := false
  found := []
  pending := [(root, path)]

/-- One turn of a walk: it goes on with the next branch, or ends. -/
def turn (default : Value) (walk : Walk) : Walk ⊕ Resolved :=
  match walk.pending with
  | [] => .inr ⟨.array walk.found, walk.branched⟩
  | (current, []) :: rest =>
      if walk.branched then
        .inl { walk with found := walk.found ++ current.array?.getD [current], pending := rest }
      else .inr ⟨current, false⟩
  | (current, name :: more) :: rest =>
      match current with
      | .array items =>
          .inl { walk with branched := true, pending := fork items (name :: more) ++ rest }
      | other =>
          match other.get? name with
          | some child => .inl { walk with pending := (child, more) :: rest }
          | none =>
              if walk.branched then .inl { walk with pending := rest }
              else .inr ⟨default, false⟩

end Walk

/-!
## The end of a walk

The values left to walk through get smaller with every turn.
-/

noncomputable def pendingSize : List Branch → Nat
  | [] => 0
  | branch :: rest => sizeOf branch.1 + pendingSize rest

theorem sizeOf_lookup_lt {fields : List (String × Value)} {key : String} {child : Value}
    (h : fields.lookup key = some child) : sizeOf child < sizeOf fields := by
  induction fields with
  | nil => cases h
  | cons field rest ih =>
      rcases field with ⟨name, value⟩
      rw [List.lookup_cons] at h
      split at h
      · cases h
        simp only [List.cons.sizeOf_spec, Prod.mk.sizeOf_spec]
        omega
      · have := ih h
        simp only [List.cons.sizeOf_spec]
        omega

theorem sizeOf_get?_lt {v child : Value} {key : String} (h : v.get? key = some child) :
    sizeOf child < sizeOf v := by
  cases v with
  | object fields =>
      have := sizeOf_lookup_lt h
      simp only [Value.object.sizeOf_spec]
      omega
  | map entries =>
      rcases Option.map_eq_some_iff.mp h with ⟨entry, hfind, rfl⟩
      have hmem := List.sizeOf_lt_of_mem (List.mem_of_find?_eq_some hfind)
      rcases entry with ⟨k, child⟩
      simp only [Value.map.sizeOf_spec, Prod.mk.sizeOf_spec] at hmem ⊢
      omega
  | _ => cases h

theorem pendingSize_fork_lt (items : List Value) (path : Path) :
    pendingSize (fork items path) < sizeOf (Value.array items) := by
  induction items with
  | nil => simp [pendingSize, fork]
  | cons item rest ih =>
      simp only [pendingSize, fork, List.map_cons, Value.array.sizeOf_spec,
        List.cons.sizeOf_spec] at ih ⊢
      omega

theorem pendingSize_append (as bs : List Branch) :
    pendingSize (as ++ bs) = pendingSize as + pendingSize bs := by
  induction as with
  | nil => simp [pendingSize]
  | cons branch rest ih =>
      simp only [List.cons_append, pendingSize, ih]
      omega

theorem sizeOf_pos (v : Value) : 0 < sizeOf v := by
  cases v <;> simp +arith

namespace Walk

theorem pendingSize_turn_lt {default : Value} {walk next : Walk}
    (h : walk.turn default = .inl next) : pendingSize next.pending < pendingSize walk.pending := by
  unfold turn at h
  split at h
  · cases h
  · next current rest hpending =>
      have := sizeOf_pos current
      split at h <;> cases h
      simp only [hpending, pendingSize]
      omega
  · next current name more rest hpending =>
      have := sizeOf_pos current
      rw [hpending]
      simp only [pendingSize]
      split at h
      · next items =>
          have := pendingSize_fork_lt items (name :: more)
          cases h
          rw [pendingSize_append]
          omega
      · split at h
        · next child hchild =>
            have := sizeOf_get?_lt hchild
            cases h
            simp only [pendingSize]
            omega
        · split at h <;> cases h
          simp only
          omega

def finish (default : Value) (walk : Walk) : Resolved :=
  match _h : walk.turn default with
  | .inl next => next.finish default
  | .inr result => result
termination_by pendingSize walk.pending
decreasing_by exact pendingSize_turn_lt _h

end Walk

def resolve (root : Value) (path : Path) (default : Value) : Resolved :=
  (Walk.start root path).finish default

end Path
end RecordFilter
