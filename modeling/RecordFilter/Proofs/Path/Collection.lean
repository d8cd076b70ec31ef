import RecordFilter.Path

/-!
# What a path leads to

A walk keeps a list of the branches that are left.  Here the same is said by
recursion: the trail of a path runs through single values up to the first array that
it meets with names left, and below that array everything is collected item by item.

The main statement is that a walk ends after finitely many turns, with what trail and
collection tell.
-/

namespace RecordFilter

namespace Path

/-! ## Collecting below an array -/

/-- What the names lead to in a value, once the walk has branched. -/
def collect (v : Value) (path : Path) : List Value :=
  match path with
  | [] => v.array?.getD [v]
  | name :: more =>
      match v with
      | .array items => items.attach.flatMap fun item => collect item.1 (name :: more)
      | other =>
          match _h : other.get? name with
          | some child => collect child more
          | none => []
termination_by sizeOf v
decreasing_by
  · have := List.sizeOf_lt_of_mem item.2
    simp only [Value.array.sizeOf_spec]
    omega
  · exact sizeOf_get?_lt _h

theorem collect_nil (v : Value) : collect v [] = v.array?.getD [v] := by
  rw [collect]

theorem collect_array (items : List Value) (name : String) (more : Path) :
    collect (.array items) (name :: more) =
      items.flatMap fun item => collect item (name :: more) := by
  rw [collect]
  simp only [List.flatMap_subtype, List.unattach_attach]

theorem collect_of_get?_some {v child : Value} {name : String}
    (h : v.get? name = some child) (more : Path) :
    collect v (name :: more) = collect child more := by
  rw [collect]
  · split
    · next found hfound =>
        rw [h] at hfound
        cases hfound
        rfl
    · next hnone =>
        rw [h] at hnone
        cases hnone
  · rintro items rfl
    cases h

theorem collect_of_get?_none {v : Value} {name : String} (hv : ∀ items, v ≠ .array items)
    (h : v.get? name = none) (more : Path) : collect v (name :: more) = [] := by
  rw [collect]
  · split
    · next found hfound =>
        rw [h] at hfound
        cases hfound
    · rfl
  · exact hv

def collectAll (branches : List Branch) : List Value :=
  branches.flatMap fun branch => collect branch.1 branch.2

theorem collectAll_fork (items : List Value) (name : String) (more : Path) :
    collectAll (fork items (name :: more)) = collect (.array items) (name :: more) := by
  rw [collect_array]
  exact List.flatMap_map _ _ _

/-! ## The trail before the first array -/

/-- Where a path leads as long as there is a single value at every name. -/
inductive Trail where
  | reached (v : Value)
  | missing
  /-- An array with names left. -/
  | forked (items : List Value) (rest : Path)

def trail (v : Value) (path : Path) : Trail :=
  match path with
  | [] => .reached v
  | name :: more =>
      match v with
      | .array items => .forked items (name :: more)
      | other =>
          match other.get? name with
          | some child => trail child more
          | none => .missing

def Trail.resolved (default : Value) : Trail → Resolved
  | .reached v => ⟨v, false⟩
  | .missing => ⟨default, false⟩
  | .forked items rest => ⟨.array (collect (.array items) rest), true⟩

theorem trail_of_get?_some {v child : Value} {name : String}
    (h : v.get? name = some child) (more : Path) :
    trail v (name :: more) = trail child more := by
  rw [trail]
  · rw [h]
  · rintro items rfl
    cases h

theorem trail_of_get?_none {v : Value} {name : String} (hv : ∀ items, v ≠ .array items)
    (h : v.get? name = none) (more : Path) : trail v (name :: more) = .missing := by
  rw [trail]
  · rw [h]
  · exact hv

/-! ## One turn -/

namespace Walk

def IsSingle (walk : Walk) : Prop :=
  walk.branched = false → walk.found = [] ∧ ∃ branch, walk.pending = [branch]

/-- What a walk is going to end with. -/
def promise (default : Value) (walk : Walk) : Resolved :=
  if walk.branched then ⟨.array (walk.found ++ collectAll walk.pending), true⟩
  else
    match walk.pending with
    | [] => ⟨default, false⟩
    | branch :: _ => (trail branch.1 branch.2).resolved default

theorem isSingle_start (root : Value) (path : Path) : (start root path).IsSingle :=
  fun _ => ⟨rfl, (root, path), rfl⟩

theorem turn_inl {default : Value} {walk next : Walk} (hwalk : walk.IsSingle)
    (h : walk.turn default = .inl next) :
    next.IsSingle ∧ next.promise default = walk.promise default := by
  rcases walk with ⟨branched, found, pending⟩
  cases branched with
  | true =>
      unfold turn at h
      split at h
      · cases h
      · next current rest hpending =>
          cases h
          cases hpending
          simp [IsSingle, promise, collectAll, collect_nil]
      · next current name more rest hpending =>
          cases hpending
          split at h
          · next items =>
              cases h
              simp [IsSingle, promise, ← collectAll_fork, collectAll]
          · next hnotArray =>
              split at h
              · next child hchild =>
                  cases h
                  simp [IsSingle, promise, collectAll, collect_of_get?_some hchild]
              · next hmissing =>
                  cases h
                  simp [IsSingle, promise, collectAll, collect_of_get?_none hnotArray hmissing]
  | false =>
      rcases hwalk rfl with ⟨hfound, ⟨current, path⟩, hpending⟩
      cases hfound
      cases hpending
      cases path with
      | nil => cases h
      | cons name more =>
          simp only [turn] at h
          split at h
          · next items =>
              cases h
              simp [IsSingle, promise, trail, Trail.resolved, collectAll_fork]
          · next hnotArray =>
              split at h
              · next child hchild =>
                  cases h
                  simp [IsSingle, promise, trail_of_get?_some hchild]
              · cases h

theorem turn_inr {default : Value} {walk : Walk} {result : Resolved} (hwalk : walk.IsSingle)
    (h : walk.turn default = .inr result) : result = walk.promise default := by
  rcases walk with ⟨branched, found, pending⟩
  cases branched with
  | true =>
      unfold turn at h
      split at h
      · next hpending =>
          cases h
          cases hpending
          simp [promise, collectAll]
      · cases h
      · split at h
        · cases h
        · split at h <;> cases h
  | false =>
      rcases hwalk rfl with ⟨hfound, ⟨current, path⟩, hpending⟩
      cases hfound
      cases hpending
      cases path with
      | nil =>
          cases h
          rfl
      | cons name more =>
          simp only [turn] at h
          split at h
          · cases h
          · next hnotArray =>
              split at h
              · cases h
              · next hmissing =>
                  cases h
                  simp [promise, trail_of_get?_none hnotArray hmissing, Trail.resolved]

/-! ## The whole walk -/

theorem finish_of_turn_inl {default : Value} {walk next : Walk}
    (h : walk.turn default = .inl next) : walk.finish default = next.finish default := by
  rw [finish]
  split
  · next found hfound =>
      rw [h] at hfound
      cases hfound
      rfl
  · next hend =>
      rw [h] at hend
      cases hend

theorem finish_of_turn_inr {default : Value} {walk : Walk} {result : Resolved}
    (h : walk.turn default = .inr result) : walk.finish default = result := by
  rw [finish]
  split
  · next hnext =>
      rw [h] at hnext
      cases hnext
  · next found hfound =>
      rw [h] at hfound
      cases hfound
      rfl

inductive Ends (default : Value) : Walk → Nat → Resolved → Prop where
  | last {walk : Walk} {result : Resolved} :
      walk.turn default = .inr result -> Ends default walk 1 result
  | turn {walk next : Walk} {turns : Nat} {result : Resolved} :
      walk.turn default = .inl next ->
      Ends default next turns result ->
      Ends default walk (turns + 1) result

theorem exists_ends_finish (default : Value) (walk : Walk) :
    ∃ turns, Ends default walk turns (walk.finish default) := by
  induction walk using finish.induct default with
  | case1 walk next hnext ih =>
      rcases ih with ⟨turns, hturns⟩
      rw [finish_of_turn_inl hnext]
      exact ⟨turns + 1, .turn hnext hturns⟩
  | case2 walk result hend =>
      rw [finish_of_turn_inr hend]
      exact ⟨1, .last hend⟩

theorem Ends.eq_promise {default : Value} {walk : Walk} {turns : Nat} {result : Resolved}
    (h : Ends default walk turns result) (hwalk : walk.IsSingle) :
    result = walk.promise default := by
  induction h with
  | last hend => exact turn_inr hwalk hend
  | turn hnext _ ih =>
      rcases turn_inl hwalk hnext with ⟨hsingle, hpromise⟩
      rw [ih hsingle, hpromise]

end Walk

/-- What a path leads to, without a list of branches. -/
theorem resolve_eq_resolved (root : Value) (path : Path) (default : Value) :
    resolve root path default = (trail root path).resolved default := by
  rcases Walk.exists_ends_finish default (Walk.start root path) with ⟨turns, hturns⟩
  exact hturns.eq_promise (Walk.isSingle_start root path)

theorem resolve_of_missing {root : Value} {path : Path} (h : trail root path = .missing)
    (default : Value) : resolve root path default = ⟨default, false⟩ := by
  rw [resolve_eq_resolved, h]
  rfl

theorem resolve_congr {root : Value} {path : Path} (h : trail root path ≠ .missing)
    (default other : Value) : resolve root path default = resolve root path other := by
  rw [resolve_eq_resolved, resolve_eq_resolved]
  cases htrail : trail root path with
  | reached v => rfl
  | missing => exact absurd htrail h
  | forked items rest => rfl

theorem Trail.resolved_of_branched {default : Value} {trail : Trail}
    (h : (trail.resolved default).branched = true) (other : Value) :
    trail.resolved other = trail.resolved default := by
  cases trail with
  | reached v => cases h
  | missing => cases h
  | forked items rest => rfl

/--
A walk ends, and with what the trail of the path tells.  Once it has branched it does
not depend on the default value.
-/
theorem resolve_eq_trail (root : Value) (path : Path) (default : Value) :
    (∃ turns, (Walk.start root path).Ends default turns (resolve root path default)) ∧
      resolve root path default = (trail root path).resolved default ∧
      ((resolve root path default).branched = true →
        ∀ other, resolve root path other = resolve root path default) := by
  refine ⟨Walk.exists_ends_finish default (Walk.start root path),
    resolve_eq_resolved root path default, ?_⟩
  intro hbranched other
  rw [resolve_eq_resolved root path default] at hbranched
  rw [resolve_eq_resolved root path other, resolve_eq_resolved root path default]
  exact Trail.resolved_of_branched hbranched other

end Path
end RecordFilter
