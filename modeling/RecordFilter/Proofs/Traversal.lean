import Mathlib.Data.List.Forall2

/-!
# Traversals that may fail

A list is mapped item by item by something that may fail, and the first failure is the failure
of the whole.
-/

namespace RecordFilter

variable {α β ε : Type} {f : α → Except ε β}

theorem exists_mem_of_forall₂ {R : α → β → Prop} {as : List α} {bs : List β}
    (h : List.Forall₂ R as bs) {a : α} (ha : a ∈ as) : ∃ b ∈ bs, R a b := by
  induction h with
  | nil => cases ha
  | cons hab _ ih =>
      rcases List.mem_cons.mp ha with rfl | hrest
      · exact ⟨_, List.mem_cons_self, hab⟩
      · rcases ih hrest with ⟨b, hb, hab'⟩
        exact ⟨b, List.mem_cons_of_mem _ hb, hab'⟩

theorem bind_eq_ok {x : Except ε α} {y : β} : x >>= f = .ok y ↔ ∃ a, x = .ok a ∧ f a = .ok y := by
  cases x with
  | error e =>
      constructor
      · nofun
      · rintro ⟨_, ⟨⟩, _⟩
  | ok a =>
      constructor
      · intro h
        exact ⟨a, rfl, h⟩
      · rintro ⟨_, ⟨⟩, h⟩
        exact h

theorem map_eq_ok {g : α → β} {x : Except ε α} {y : β} :
    g <$> x = .ok y ↔ ∃ a, x = .ok a ∧ g a = y := by
  cases x with
  | error e => simp [Functor.map, Except.map]
  | ok a => simp [Functor.map, Except.map]

theorem mapM_cons_eq_ok {x : α} {xs : List α} {ys : List β} :
    (x :: xs).mapM f = .ok ys ↔
      ∃ y others, f x = .ok y ∧ xs.mapM f = .ok others ∧ ys = y :: others := by
  rw [List.mapM_cons]
  constructor
  · intro h
    rcases bind_eq_ok.mp h with ⟨y, hx, hmore⟩
    rcases bind_eq_ok.mp hmore with ⟨others, hrest, hys⟩
    exact ⟨y, others, hx, hrest, (Except.ok.inj hys).symm⟩
  · rintro ⟨y, others, hx, hrest, rfl⟩
    exact bind_eq_ok.mpr ⟨y, hx, bind_eq_ok.mpr ⟨others, hrest, rfl⟩⟩

theorem exists_mapM_eq_ok {P : α → β → Prop} {xs : List α}
    (h : ∀ x ∈ xs, ∃ y, f x = .ok y ∧ P x y) :
    ∃ ys, xs.mapM f = .ok ys ∧ List.Forall₂ P xs ys := by
  induction xs with
  | nil => exact ⟨[], rfl, .nil⟩
  | cons x rest ih =>
      rcases h x List.mem_cons_self with ⟨y, hy, hP⟩
      rcases ih (fun x hx => h x (List.mem_cons_of_mem _ hx)) with ⟨ys, hys, hrest⟩
      exact ⟨y :: ys, mapM_cons_eq_ok.mpr ⟨y, ys, hy, hys, rfl⟩, .cons hP hrest⟩

theorem forall₂_of_mapM_eq_ok {xs : List α} {ys : List β} (h : xs.mapM f = .ok ys) :
    List.Forall₂ (fun x y => f x = .ok y) xs ys := by
  induction xs generalizing ys with
  | nil =>
      cases h
      exact .nil
  | cons x rest ih =>
      rcases mapM_cons_eq_ok.mp h with ⟨y, others, hx, hrest, rfl⟩
      exact .cons hx (ih hrest)

theorem mapM_eq_ok_iff {xs : List α} {ys : List β} :
    xs.mapM f = .ok ys ↔ List.Forall₂ (fun x y => f x = .ok y) xs ys := by
  constructor
  · exact forall₂_of_mapM_eq_ok
  · intro h
    induction h with
    | nil => rfl
    | cons hx _ ih => exact mapM_cons_eq_ok.mpr ⟨_, _, hx, ih, rfl⟩

theorem length_of_mapM_eq_ok {xs : List α} {ys : List β} (h : xs.mapM f = .ok ys) :
    xs.length = ys.length :=
  (forall₂_of_mapM_eq_ok h).length_eq

theorem exists_of_mem_mapM {xs : List α} {ys : List β} (h : xs.mapM f = .ok ys) {y : β}
    (hy : y ∈ ys) : ∃ x ∈ xs, f x = .ok y :=
  exists_mem_of_forall₂ (forall₂_of_mapM_eq_ok h).flip hy

theorem exists_of_mapM_eq_ok {xs : List α} {ys : List β} (h : xs.mapM f = .ok ys) {x : α}
    (hx : x ∈ xs) : ∃ y ∈ ys, f x = .ok y :=
  exists_mem_of_forall₂ (forall₂_of_mapM_eq_ok h) hx

theorem mapM_congr_of_mem {g : α → Except ε β} {xs : List α} (h : ∀ x ∈ xs, f x = g x) :
    xs.mapM f = xs.mapM g := by
  induction xs with
  | nil => rfl
  | cons x rest ih =>
      rw [List.mapM_cons, List.mapM_cons, h x List.mem_cons_self,
        ih fun y hy => h y (List.mem_cons_of_mem x hy)]

theorem mapM_eq_error {before after : List α} {x : α} {e : ε}
    (hbefore : ∀ y ∈ before, ∃ b, f y = .ok b) (hx : f x = .error e) :
    (before ++ x :: after).mapM f = .error e := by
  induction before with
  | nil =>
      rw [List.nil_append, List.mapM_cons, hx]
      rfl
  | cons y rest ih =>
      rcases hbefore y List.mem_cons_self with ⟨b, hb⟩
      have hrest := ih fun z hz => hbefore z (List.mem_cons_of_mem y hz)
      rw [List.cons_append, List.mapM_cons, hb, hrest]
      rfl

theorem mapM_map_right {γ : Type} (f : α → Except ε β) (g : α → β → γ) (xs : List α) :
    (xs.mapM fun x => (f x).map (g x)) = (xs.mapM f).map (List.zipWith g xs) := by
  induction xs with
  | nil => rfl
  | cons x rest ih =>
      rw [List.mapM_cons, List.mapM_cons, ih]
      cases f x with
      | error e => rfl
      | ok y =>
          cases rest.mapM f with
          | error e => rfl
          | ok ys => rfl

/-! ## What goes wrong first -/

theorem bind_eq_error {x : Except ε α} {e : ε} :
    x >>= f = .error e ↔ x = .error e ∨ ∃ a, x = .ok a ∧ f a = .error e := by
  cases x with
  | error first =>
      constructor
      · intro h
        cases h
        exact .inl rfl
      · rintro (⟨⟨⟩⟩ | ⟨_, ⟨⟩, _⟩)
        rfl
  | ok a =>
      constructor
      · intro h
        exact .inr ⟨a, rfl, h⟩
      · rintro (⟨⟨⟩⟩ | ⟨_, ⟨⟩, h⟩)
        exact h

def failure? : Except ε α → Option ε
  | .error e => some e
  | .ok _ => none

@[simp] theorem failure?_error (e : ε) : failure? (.error e : Except ε α) = some e := rfl

@[simp] theorem failure?_ok (a : α) : failure? (.ok a : Except ε α) = none := rfl

theorem failure?_eq_some_iff {x : Except ε α} {e : ε} : failure? x = some e ↔ x = .error e := by
  cases x <;> simp

theorem failure?_eq_none_iff {x : Except ε α} : failure? x = none ↔ ∃ a, x = .ok a := by
  cases x <;> simp

@[simp] theorem failure?_map (g : α → β) (x : Except ε α) : failure? (g <$> x) = failure? x := by
  cases x <;> rfl

/-- A traversal fails as the first item does that fails. -/
theorem failure?_mapM (xs : List α) :
    failure? (xs.mapM f) = xs.findSome? fun x => failure? (f x) := by
  induction xs with
  | nil => rfl
  | cons x rest ih =>
      rw [List.mapM_cons, List.findSome?_cons, ← ih]
      cases f x with
      | error e => rfl
      | ok y => exact failure?_map (List.cons y) (rest.mapM f)

theorem findSome?_cons_eq_or {find : α → Option β} (x : α) (xs : List α) :
    (x :: xs).findSome? find = (find x).or (xs.findSome? find) := by
  rw [List.findSome?_cons]
  cases find x <;> rfl

theorem findSome?_flatMap {γ : Type} (g : α → List β) (find : β → Option γ) (xs : List α) :
    (xs.flatMap g).findSome? find = xs.findSome? fun x => (g x).findSome? find := by
  induction xs with
  | nil => rfl
  | cons x rest ih =>
      rw [List.flatMap_cons, List.findSome?_append, findSome?_cons_eq_or, ih]

theorem foldlM_map_comm {σ : Type} {step : σ → α → Except ε σ} {g : α → α} {h : σ → σ}
    (hstep : ∀ s x, step (h s) (g x) = h <$> step s x) (xs : List α) (s : σ) :
    (xs.map g).foldlM step (h s) = h <$> xs.foldlM step s := by
  induction xs generalizing s with
  | nil => rfl
  | cons x rest ih =>
      rw [List.map_cons, List.foldlM_cons, List.foldlM_cons, hstep]
      cases step s x with
      | error e => rfl
      | ok next => exact ih next

/-! ## Readers that may find nothing -/

theorem mapM_eq_some_iff {read : α → Option β} {write : β → α}
    (h : ∀ x y, read x = some y ↔ x = write y) {xs : List α} {ys : List β} :
    xs.mapM read = some ys ↔ xs = ys.map write := by
  induction xs generalizing ys with
  | nil => simp [eq_comm]
  | cons x rest ih =>
      cases ys with
      | nil => simp [List.mapM_cons, Option.bind_eq_some_iff]
      | cons y others => simp [List.mapM_cons, Option.bind_eq_some_iff, h, ih]

end RecordFilter
