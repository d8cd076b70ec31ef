import Mathlib.Logic.Relation
import RecordFilter.Operator.Basic
import RecordFilter.Proofs.Value.Equality

/-!
# Sub-structure as a preorder

Whether a value contains a pattern depends on the kind of the pattern.  Objects and arrays are
searched for what contains the parts of the pattern, and everything else is compared as a
whole.  This one level is stated as a relation, with a relation between the parts as its
parameter, and the laws go up the patterns by induction on their parts.

The main statement is that containment is a preorder which includes equality, and that an
object still contains what is left of it when fields and items are taken out at any depth.
-/

namespace RecordFilter

namespace Value

/-! ## One level of containment -/

def IsWhole : Value → Prop
  | .array _ | .object _ => False
  | _ => True

/-- A value has what a pattern asks for, with a relation for the parts. -/
inductive ContainsBy (R : Value → Value → Prop) : Value → Value → Prop
  | array {items wanted : List Value} (h : ∀ part ∈ wanted, ∃ item ∈ items, R item part) :
      ContainsBy R (.array items) (.array wanted)
  | object {fields wanted : List (String × Value)}
      (h : ∀ part ∈ wanted, ∃ field ∈ fields, field.1 = part.1 ∧ R field.2 part.2) :
      ContainsBy R (.object fields) (.object wanted)
  | whole {v pattern : Value} (hwhole : pattern.IsWhole) (h : (v == pattern) = true) :
      ContainsBy R v pattern

theorem containsItems_iff {items wanted : List Value} :
    containsItems items wanted = true ↔
      ∀ part ∈ wanted, ∃ item ∈ items, item.contains part = true := by
  induction wanted with
  | nil => simp [containsItems]
  | cons part rest ih => simp [containsItems, ih]

theorem containsField_iff {fields : List (String × Value)} {part : String × Value} :
    containsField fields part = true ↔
      ∃ field ∈ fields, field.1 = part.1 ∧ field.2.contains part.2 = true := by
  rcases part with ⟨name, pattern⟩
  simp only [containsField, List.any_eq_true, Bool.and_eq_true, beq_iff_eq]

theorem containsFields_iff {fields wanted : List (String × Value)} :
    containsFields fields wanted = true ↔
      ∀ part ∈ wanted, ∃ field ∈ fields, field.1 = part.1 ∧ field.2.contains part.2 = true := by
  induction wanted with
  | nil => simp [containsFields]
  | cons part rest ih =>
      rw [containsFields, Bool.and_eq_true, containsField_iff, ih, List.forall_mem_cons]

theorem containsBy_of_contains {v pattern : Value} (h : v.contains pattern = true) :
    ContainsBy (fun x y => x.contains y = true) v pattern := by
  cases pattern with
  | array wanted =>
      cases v with
      | array items => exact .array (containsItems_iff.mp h)
      | _ => cases h
  | object wanted =>
      cases v with
      | object fields => exact .object (containsFields_iff.mp h)
      | _ => cases h
  | _ => exact .whole trivial h

theorem contains_of_containsBy {v pattern : Value}
    (h : ContainsBy (fun x y => x.contains y = true) v pattern) : v.contains pattern = true := by
  cases h with
  | array h => exact containsItems_iff.mpr h
  | object h => exact containsFields_iff.mpr h
  | whole hwhole h =>
      cases pattern with
      | array wanted => cases hwhole
      | object wanted => cases hwhole
      | _ => exact h

theorem contains_iff_containsBy {v pattern : Value} :
    v.contains pattern = true ↔ ContainsBy (fun x y => x.contains y = true) v pattern :=
  ⟨containsBy_of_contains, contains_of_containsBy⟩

/-! ## The laws -/

theorem contains_of_beq {a b : Value} (h : (a == b) = true) : a.contains b = true := by
  induction a using induction_parts generalizing b with
  | step a ih =>
      apply contains_iff_containsBy.mpr
      cases equalBy_of_beq h with
      | array hitems =>
          have hparts := forall₂_of_mem hitems fun x hx y _ hxy => ih x hx hxy
          exact .array fun part hpart => exists_mem_of_forall₂ hparts.flip hpart
      | object hfields =>
          have hparts := forall₂_of_mem hfields fun x hx y _ hxy =>
            And.intro hxy.1 (ih _ (mem_parts_object hx) hxy.2)
          exact .object fun part hpart => exists_mem_of_forall₂ hparts.flip hpart
      | _ => exact .whole trivial h

theorem contains_refl (v : Value) : v.contains v = true :=
  contains_of_beq (beq_refl v)

theorem isWhole_of_beq {a b : Value} (h : (a == b) = true) (hb : b.IsWhole) : a.IsWhole := by
  cases equalBy_of_beq h with
  | array _ => exact hb
  | object _ => exact hb
  | _ => trivial

theorem beq_of_contains {v pattern : Value} (hwhole : pattern.IsWhole)
    (h : v.contains pattern = true) : (v == pattern) = true := by
  cases contains_iff_containsBy.mp h with
  | array _ => cases hwhole
  | object _ => cases hwhole
  | whole _ hequal => exact hequal

theorem contains_trans {a b c : Value} (ha : a.WellFormed) (hb : b.WellFormed)
    (hc : c.WellFormed) (hab : a.contains b = true) (hbc : b.contains c = true) :
    a.contains c = true := by
  induction c using induction_parts generalizing a b with
  | step c ih =>
      apply contains_iff_containsBy.mpr
      cases contains_iff_containsBy.mp hbc with
      | @array bs cs hfound =>
          cases contains_iff_containsBy.mp hab with
          | @array as _ hfound' =>
              apply ContainsBy.array
              intro z hz
              rcases hfound z hz with ⟨y, hy, hyz⟩
              rcases hfound' y hy with ⟨x, hx, hxy⟩
              exact ⟨x, hx, ih z hz (ha.parts hx) (hb.parts hy) (hc.parts hz) hxy hyz⟩
          | whole hwhole _ => cases hwhole
      | @object bs cs hfound =>
          cases contains_iff_containsBy.mp hab with
          | @object as _ hfound' =>
              apply ContainsBy.object
              intro z hz
              rcases hfound z hz with ⟨y, hy, hname, hyz⟩
              rcases hfound' y hy with ⟨x, hx, hname', hxy⟩
              refine ⟨x, hx, hname'.trans hname, ?_⟩
              exact ih _ (mem_parts_object hz) (ha.parts (mem_parts_object hx))
                (hb.parts (mem_parts_object hy)) (hc.parts (mem_parts_object hz)) hxy hyz
          | whole hwhole _ => cases hwhole
      | whole hwhole hequal =>
          have hequal' := beq_of_contains (isWhole_of_beq hequal hwhole) hab
          exact .whole hwhole (isEquivalenceOn_wellFormed.trans ha hb hc hequal' hequal)

/-! ## Taking parts out -/

/-- One field of an object or one item of an array is taken out, at some depth. -/
inductive Removes : Value → Value → Prop
  | field (before after : List (String × Value)) (field : String × Value) :
      Removes (.object (before ++ field :: after)) (.object (before ++ after))
  | item (before after : List Value) (item : Value) :
      Removes (.array (before ++ item :: after)) (.array (before ++ after))
  | inField (before after : List (String × Value)) (name : String) {v rest : Value}
      (h : Removes v rest) :
      Removes (.object (before ++ (name, v) :: after)) (.object (before ++ (name, rest) :: after))
  | inItem (before after : List Value) {v rest : Value} (h : Removes v rest) :
      Removes (.array (before ++ v :: after)) (.array (before ++ rest :: after))

theorem forall_mem_of_insert {α : Type} {p : α → Prop} {before after : List α} {x : α}
    (h : ∀ y ∈ before ++ x :: after, p y) : ∀ y ∈ before ++ after, p y := by
  intro y hy
  apply h y
  apply List.mem_append.mpr
  exact (List.mem_append.mp hy).imp_right (List.mem_cons_of_mem x)

theorem forall_mem_of_replace {α : Type} {p : α → Prop} {before after : List α} {x y : α}
    (h : ∀ z ∈ before ++ x :: after, p z) (hreplace : p x → p y) :
    ∀ z ∈ before ++ y :: after, p z := by
  rw [List.forall_mem_append, List.forall_mem_cons] at h ⊢
  exact ⟨h.1, hreplace h.2.1, h.2.2⟩

/-- What a value contains it still contains when parts of it are taken out. -/
theorem contains_of_removes {pattern rest : Value} (h : Removes pattern rest) {v : Value}
    (hv : v.contains pattern = true) : v.contains rest = true := by
  induction h generalizing v with
  | field before after field =>
      cases contains_iff_containsBy.mp hv with
      | object hfound => exact contains_iff_containsBy.mpr (.object (forall_mem_of_insert hfound))
      | whole hwhole _ => cases hwhole
  | item before after item =>
      cases contains_iff_containsBy.mp hv with
      | array hfound => exact contains_iff_containsBy.mpr (.array (forall_mem_of_insert hfound))
      | whole hwhole _ => cases hwhole
  | inField before after name _ ih =>
      cases contains_iff_containsBy.mp hv with
      | object hfound =>
          apply contains_iff_containsBy.mpr
          apply ContainsBy.object
          apply forall_mem_of_replace hfound
          rintro ⟨field, hfield, hname, hcontains⟩
          exact ⟨field, hfield, hname, ih hcontains⟩
      | whole hwhole _ => cases hwhole
  | inItem before after _ ih =>
      cases contains_iff_containsBy.mp hv with
      | array hfound =>
          apply contains_iff_containsBy.mpr
          apply ContainsBy.array
          apply forall_mem_of_replace hfound
          rintro ⟨item, hitem, hcontains⟩
          exact ⟨item, hitem, ih hcontains⟩
      | whole hwhole _ => cases hwhole

theorem contains_of_reflTransGen_removes {v rest : Value}
    (h : Relation.ReflTransGen Removes v rest) : v.contains rest = true := by
  induction h with
  | refl => exact contains_refl v
  | tail _ hstep ih => exact contains_of_removes hstep ih

theorem object_of_reflTransGen_removes {fields : List (String × Value)} {rest : Value}
    (h : Relation.ReflTransGen Removes (.object fields) rest) :
    ∃ others, rest = .object others := by
  induction h with
  | refl => exact ⟨fields, rfl⟩
  | tail _ hstep ih =>
      rcases ih with ⟨others, rfl⟩
      cases hstep with
      | field before after field => exact ⟨_, rfl⟩
      | inField before after name h => exact ⟨_, rfl⟩

/-! ## The preorder -/

example : (array [.null, .undefined]).contains (array [.undefined, .null, .null]) = true ∧
    (array [.undefined, .null, .null]).contains (array [.null, .undefined]) = true ∧
    (array [.null, .undefined] == array [.undefined, .null, .null]) = false := by
  decide

/--
Every value contains itself and whatever it equals, and containment can be chained among
well-formed values.  An object contains whatever is left of it when fields of objects and items
of arrays are taken out at any depth.
-/
theorem contains_preorder :
    (∀ v : Value, v.contains v = true) ∧
      (∀ a b c : Value, a.WellFormed → b.WellFormed → c.WellFormed →
        a.contains b = true → b.contains c = true → a.contains c = true) ∧
      (∀ a b : Value, (a == b) = true → a.contains b = true) ∧
      ∀ (fields : List (String × Value)) (pattern : Value),
        Relation.ReflTransGen Removes (.object fields) pattern → ∀ now,
          (Operator.object .contains).holds now (.object fields) pattern = true ∧
            (Operator.object .notContains).holds now (.object fields) pattern = false := by
  refine ⟨contains_refl, fun a b c => contains_trans, fun a b => contains_of_beq, ?_⟩
  intro fields pattern h now
  have hcontains := contains_of_reflTransGen_removes h
  rcases object_of_reflTransGen_removes h with ⟨others, rfl⟩
  constructor
  · exact hcontains
  · show (!(Value.object fields).contains (.object others)) = false
    rw [hcontains]
    rfl

theorem contains_preorder_of_user :
    let user (roles : List Value) : Value := .object [("roles", .array roles)]
    let a : Value := .object [("age", .null), ("user", user [setOf [.null, .undefined], .null])]
    let b : Value := .object [("user", user [setOf [.null, .undefined]])]
    let c : Value := .object [("user", user [setOf [.undefined, .null]])]
    a.WellFormed ∧ b.WellFormed ∧ c.WellFormed ∧ a.contains b = true ∧ (b == c) = true ∧
      b.contains c = true ∧ a.contains c = true ∧ Relation.ReflTransGen Removes a b ∧
      ∀ now, (Operator.object .contains).holds now a b = true := by
  intro user a b c
  have hnull : Value.null.WellFormed := wellFormed_of_parts_eq_nil trivial rfl
  have hundefined : Value.undefined.WellFormed := wellFormed_of_parts_eq_nil trivial rfl
  have hset : ∀ v w : Value, v.WellFormed → w.WellFormed → (setOf [v, w]).WellFormed := by
    intro v w hv hw
    exact .setOf (List.forall_mem_cons.mpr ⟨hv, List.forall_mem_singleton.mpr hw⟩)
  have hobject : ∀ name v, v.WellFormed → (Value.object [(name, v)]).WellFormed := by
    intro name v hv
    exact .intro trivial (List.forall_mem_singleton.mpr hv)
  have huser : ∀ roles : List Value, (∀ role ∈ roles, role.WellFormed) →
      (user roles).WellFormed := by
    intro roles hroles
    exact hobject "roles" _ (.intro trivial hroles)
  have hset₁ := hset _ _ hnull hundefined
  have hset₂ := hset _ _ hundefined hnull
  have ha : a.WellFormed := by
    have hroles := huser [_, _]
      (List.forall_mem_cons.mpr ⟨hset₁, List.forall_mem_singleton.mpr hnull⟩)
    exact .intro trivial (List.forall_mem_cons.mpr ⟨hnull, List.forall_mem_singleton.mpr hroles⟩)
  have hb : b.WellFormed := hobject "user" _ (huser _ (List.forall_mem_singleton.mpr hset₁))
  have hc : c.WellFormed := hobject "user" _ (huser _ (List.forall_mem_singleton.mpr hset₂))
  have hbc : (b == c) = true := by decide
  have hremoves : Relation.ReflTransGen Removes a b := by
    apply Relation.ReflTransGen.head (.field [] _ ("age", .null))
    apply Relation.ReflTransGen.single
    apply Removes.inField [] [] "user"
    apply Removes.inField [] [] "roles"
    exact .item [setOf [.null, .undefined]] [] .null
  rcases contains_preorder with ⟨-, htrans, hequal, hremoved⟩
  have hholds : ∀ now, (Operator.object .contains).holds now a b = true := by
    intro now
    exact (hremoved _ b hremoves now).1
  have hab : a.contains b = true := by decide
  have hcontains : b.contains c = true := hequal b c hbc
  exact ⟨ha, hb, hc, hab, hbc, hcontains, htrans a b c ha hb hc hab hcontains, hremoves, hholds⟩

end Value
end RecordFilter
