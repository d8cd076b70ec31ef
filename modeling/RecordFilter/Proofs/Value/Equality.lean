import Mathlib.Data.List.Induction
import Mathlib.Data.List.Perm.Subperm
import RecordFilter.Proofs.Traversal
import RecordFilter.Value.Equality

/-!
# Equality as an equivalence

Whether two values are equal depends on their kind and on which of their parts are
equal.  This one level is stated as a relation between values, with a relation between
their parts as its parameter.

For sets and maps one level asks from one side only: the lengths agree, and everything on
the left is found on the right.  If nothing occurs twice on the left, then what is
found there is found for one item only, and by counting everything on the right has been
found.

The main statement is that equality is reflexive, and that it is symmetric and transitive
among the values in which no set has two equal items and no map two equal keys.  Sets and
maps that are built from such values are such values.
-/

namespace RecordFilter

/-! ## Numbers -/

namespace Number

theorem same_iff {a b : Number} :
    a.same b = true ↔ a.isNaN = b.isNaN ∧ (a.isNaN = false → a.position = b.position) := by
  unfold same equals
  cases a.isNaN <;> cases b.isNaN <;> simp

theorem same_refl (a : Number) : a.same a = true :=
  same_iff.mpr ⟨rfl, fun _ => rfl⟩

theorem same_symm {a b : Number} (h : a.same b = true) : b.same a = true := by
  rcases same_iff.mp h with ⟨hnan, hposition⟩
  refine same_iff.mpr ⟨hnan.symm, ?_⟩
  intro hb
  exact (hposition (hnan.trans hb)).symm

theorem same_trans {a b c : Number} (hab : a.same b = true) (hbc : b.same c = true) :
    a.same c = true := by
  rcases same_iff.mp hab with ⟨hnan, hposition⟩
  rcases same_iff.mp hbc with ⟨hnan', hposition'⟩
  refine same_iff.mpr ⟨hnan.trans hnan', ?_⟩
  intro ha
  exact (hposition ha).trans (hposition' (hnan.symm.trans ha))

end Number

namespace Value

/-! ## Parts -/

def parts : Value → List Value
  | .array items | .set items => items
  | .map entries => entries.map Prod.fst ++ entries.map Prod.snd
  | .object fields => fields.map Prod.snd
  | _ => []

theorem mem_parts_map_key {entries : List (Value × Value)} {entry : Value × Value}
    (h : entry ∈ entries) : entry.1 ∈ (Value.map entries).parts :=
  List.mem_append_left _ (List.mem_map_of_mem h)

theorem mem_parts_map_value {entries : List (Value × Value)} {entry : Value × Value}
    (h : entry ∈ entries) : entry.2 ∈ (Value.map entries).parts :=
  List.mem_append_right _ (List.mem_map_of_mem h)

theorem mem_parts_object {fields : List (String × Value)} {field : String × Value}
    (h : field ∈ fields) : field.2 ∈ (Value.object fields).parts :=
  List.mem_map_of_mem h

theorem sizeOf_lt_of_mem_parts {v part : Value} (h : part ∈ v.parts) :
    sizeOf part < sizeOf v := by
  cases v with
  | array items =>
      have hlt := List.sizeOf_lt_of_mem (show part ∈ items from h)
      simp only [array.sizeOf_spec]
      omega
  | set items =>
      have hlt := List.sizeOf_lt_of_mem (show part ∈ items from h)
      simp only [set.sizeOf_spec]
      omega
  | map entries =>
      have hentry : ∃ entry ∈ entries, part = entry.1 ∨ part = entry.2 := by
        rcases List.mem_append.mp h with hkey | hvalue
        · rcases List.mem_map.mp hkey with ⟨entry, hmem, rfl⟩
          exact ⟨entry, hmem, .inl rfl⟩
        · rcases List.mem_map.mp hvalue with ⟨entry, hmem, rfl⟩
          exact ⟨entry, hmem, .inr rfl⟩
      rcases hentry with ⟨⟨key, value⟩, hmem, hpart⟩
      have hlt := List.sizeOf_lt_of_mem hmem
      simp only [Prod.mk.sizeOf_spec, map.sizeOf_spec] at hlt ⊢
      rcases hpart with rfl | rfl <;> omega
  | object fields =>
      rcases List.mem_map.mp h with ⟨⟨name, value⟩, hmem, rfl⟩
      have hlt := List.sizeOf_lt_of_mem hmem
      simp only [Prod.mk.sizeOf_spec, object.sizeOf_spec] at hlt ⊢
      omega
  | _ => cases h

theorem induction_parts {motive : Value → Prop}
    (step : ∀ v, (∀ part ∈ v.parts, motive part) → motive v) (v : Value) : motive v :=
  step v fun part _hpart => induction_parts step part
termination_by sizeOf v
decreasing_by exact sizeOf_lt_of_mem_parts _hpart

/-! ## Kinds -/

inductive SameKind : Value → Value → Prop
  | undefined : SameKind .undefined .undefined
  | null : SameKind .null .null
  | boolean (a b : Bool) : SameKind (.boolean a) (.boolean b)
  | number (a b : Number) : SameKind (.number a) (.number b)
  | string (a b : String) : SameKind (.string a) (.string b)
  | date (a b : Instant) : SameKind (.date a) (.date b)
  | regex (a b : Pattern) : SameKind (.regex a) (.regex b)
  | array (as bs : List Value) : SameKind (.array as) (.array bs)
  | set (as bs : List Value) : SameKind (.set as) (.set bs)
  | map (as bs : List (Value × Value)) : SameKind (.map as) (.map bs)
  | object (as bs : List (String × Value)) : SameKind (.object as) (.object bs)

theorem sameKind_of_agrees {exchanged : Bool} {a b : Value} (h : agrees exchanged a b = true) :
    SameKind a b := by
  cases a <;> cases b <;> first | constructor | cases h

/-! ## Searches through lists of parts -/

theorem itemsAgree_iff {exchanged : Bool} {as bs : List Value} :
    itemsAgree exchanged as bs = true ↔
      List.Forall₂ (fun a b => agrees exchanged a b = true) as bs := by
  induction as generalizing bs with
  | nil => cases bs <;> simp [itemsAgree]
  | cons a rest ih => cases bs <;> simp [itemsAgree, ih]

theorem occursAmong_iff {exchanged : Bool} {as : List Value} {b : Value} :
    occursAmong exchanged as b = true ↔ ∃ a ∈ as, agrees exchanged a b = true := by
  induction as with
  | nil => simp [occursAmong]
  | cons a rest ih => simp [occursAmong, ih]

theorem allOccur_iff {exchanged : Bool} {as bs : List Value} :
    allOccur exchanged as bs = true ↔ ∀ a ∈ as, ∃ b ∈ bs, agrees exchanged a b = true := by
  induction as with
  | nil => simp [allOccur]
  | cons a rest ih => simp [allOccur, ih]

theorem entryAgrees_iff {exchanged : Bool} {a b : Value × Value} :
    entryAgrees exchanged a b = true ↔
      agrees exchanged a.1 b.1 = true ∧ agrees exchanged a.2 b.2 = true := by
  rcases a with ⟨key, value⟩
  simp [entryAgrees]

theorem entryAmong_iff {exchanged : Bool} {as : List (Value × Value)} {b : Value × Value} :
    entryAmong exchanged as b = true ↔ ∃ a ∈ as, entryAgrees exchanged a b = true := by
  induction as with
  | nil => simp [entryAmong]
  | cons a rest ih => simp [entryAmong, ih]

theorem allEntriesOccur_iff {exchanged : Bool} {as bs : List (Value × Value)} :
    allEntriesOccur exchanged as bs = true ↔
      ∀ a ∈ as, ∃ b ∈ bs, entryAgrees exchanged a b = true := by
  induction as with
  | nil => simp [allEntriesOccur]
  | cons a rest ih => simp [allEntriesOccur, ih]

theorem fieldAgrees_iff {exchanged : Bool} {a b : String × Value} :
    fieldAgrees exchanged a b = true ↔ a.1 = b.1 ∧ agrees exchanged a.2 b.2 = true := by
  rcases a with ⟨name, value⟩
  simp [fieldAgrees]

theorem fieldsAgree_iff {exchanged : Bool} {as bs : List (String × Value)} :
    fieldsAgree exchanged as bs = true ↔
      List.Forall₂ (fun a b => a.1 = b.1 ∧ agrees exchanged a.2 b.2 = true) as bs := by
  induction as generalizing bs with
  | nil => cases bs <;> simp [fieldsAgree]
  | cons a rest ih => cases bs <;> simp [fieldsAgree, fieldAgrees_iff, ih]

/-! ## Exchanged sides -/

theorem forall₂_of_mem {α β : Type} {R S : α → β → Prop} {as : List α} {bs : List β}
    (h : List.Forall₂ R as bs) (himp : ∀ a ∈ as, ∀ b ∈ bs, R a b → S a b) :
    List.Forall₂ S as bs := by
  induction h with
  | nil => exact .nil
  | cons hab _ ih =>
      refine .cons (himp _ List.mem_cons_self _ List.mem_cons_self hab) (ih ?_)
      intro a ha b hb
      exact himp a (List.mem_cons_of_mem _ ha) b (List.mem_cons_of_mem _ hb)

theorem agrees_set_iff {as bs : List Value} :
    agrees false (.set as) (.set bs) = true ↔
      as.length = bs.length ∧ ∀ a ∈ as, ∃ b ∈ bs, agrees true a b = true := by
  simp [agrees, allOccur_iff]

theorem agrees_set_exchanged_iff {as bs : List Value} :
    agrees true (.set as) (.set bs) = true ↔
      as.length = bs.length ∧ ∀ b ∈ bs, ∃ a ∈ as, agrees false a b = true := by
  simp [agrees, occursAmong_iff]

theorem agrees_map_iff {as bs : List (Value × Value)} :
    agrees false (.map as) (.map bs) = true ↔ as.length = bs.length ∧
      ∀ a ∈ as, ∃ b ∈ bs, agrees false a.1 b.1 = true ∧ agrees false a.2 b.2 = true := by
  simp only [agrees, Bool.and_eq_true, beq_iff_eq, Bool.false_eq_true, if_false,
    allEntriesOccur_iff, entryAgrees_iff]

theorem agrees_map_exchanged_iff {as bs : List (Value × Value)} :
    agrees true (.map as) (.map bs) = true ↔ as.length = bs.length ∧
      ∀ b ∈ bs, ∃ a ∈ as, agrees true a.1 b.1 = true ∧ agrees true a.2 b.2 = true := by
  simp only [agrees, Bool.and_eq_true, beq_iff_eq, if_true, List.all_eq_true,
    entryAmong_iff, entryAgrees_iff]

theorem agrees_exchange {exchanged : Bool} {a b : Value} (h : agrees exchanged a b = true) :
    agrees (!exchanged) b a = true := by
  induction a using induction_parts generalizing exchanged b with
  | step a ih =>
      cases sameKind_of_agrees h with
      | undefined => rfl
      | null => rfl
      | boolean x y => exact BEq.symm h
      | number x y => exact Number.same_symm h
      | string x y => exact BEq.symm h
      | date x y => exact BEq.symm h
      | regex x y => exact BEq.symm h
      | array as bs =>
          have hitems := forall₂_of_mem (itemsAgree_iff.mp h) fun x hx _ _ => ih x hx
          exact itemsAgree_iff.mpr hitems.flip
      | set as bs =>
          cases exchanged with
          | false =>
              rcases agrees_set_iff.mp h with ⟨hlength, hall⟩
              refine agrees_set_exchanged_iff.mpr ⟨hlength.symm, fun x hx => ?_⟩
              rcases hall x hx with ⟨y, hy, hxy⟩
              exact ⟨y, hy, ih x hx hxy⟩
          | true =>
              rcases agrees_set_exchanged_iff.mp h with ⟨hlength, hall⟩
              refine agrees_set_iff.mpr ⟨hlength.symm, fun y hy => ?_⟩
              rcases hall y hy with ⟨x, hx, hxy⟩
              exact ⟨x, hx, ih x hx hxy⟩
      | map as bs =>
          have hentry : ∀ {side : Bool} {x y : Value × Value}, x ∈ as →
              agrees side x.1 y.1 = true ∧ agrees side x.2 y.2 = true →
                agrees (!side) y.1 x.1 = true ∧ agrees (!side) y.2 x.2 = true := by
            intro side x y hx hxy
            exact hxy.imp (ih _ (mem_parts_map_key hx)) (ih _ (mem_parts_map_value hx))
          cases exchanged with
          | false =>
              rcases agrees_map_iff.mp h with ⟨hlength, hall⟩
              refine agrees_map_exchanged_iff.mpr ⟨hlength.symm, fun x hx => ?_⟩
              rcases hall x hx with ⟨y, hy, hxy⟩
              exact ⟨y, hy, hentry hx hxy⟩
          | true =>
              rcases agrees_map_exchanged_iff.mp h with ⟨hlength, hall⟩
              refine agrees_map_iff.mpr ⟨hlength.symm, fun y hy => ?_⟩
              rcases hall y hy with ⟨x, hx, hxy⟩
              exact ⟨x, hx, hentry hx hxy⟩
      | object as bs =>
          have hfields := forall₂_of_mem (fieldsAgree_iff.mp h) fun x hx y _ hxy =>
            And.intro hxy.1.symm (ih _ (mem_parts_object hx) hxy.2)
          exact fieldsAgree_iff.mpr hfields.flip

/-! ## One level of equality -/

/--
Two values are of one kind, and their parts are related as it takes for the values to be
equal.  The items of a set are looked for from the other side.
-/
inductive EqualBy (R : Value → Value → Prop) : Value → Value → Prop
  | undefined : EqualBy R .undefined .undefined
  | null : EqualBy R .null .null
  | boolean (b : Bool) : EqualBy R (.boolean b) (.boolean b)
  | number {a b : Number} (h : a.same b = true) : EqualBy R (.number a) (.number b)
  | string (s : String) : EqualBy R (.string s) (.string s)
  | date (t : Instant) : EqualBy R (.date t) (.date t)
  | regex (p : Pattern) : EqualBy R (.regex p) (.regex p)
  | array {as bs : List Value} (h : List.Forall₂ R as bs) : EqualBy R (.array as) (.array bs)
  | set {as bs : List Value} (hlength : as.length = bs.length)
      (h : ∀ a ∈ as, ∃ b ∈ bs, R b a) : EqualBy R (.set as) (.set bs)
  | map {as bs : List (Value × Value)} (hlength : as.length = bs.length)
      (h : ∀ a ∈ as, ∃ b ∈ bs, R a.1 b.1 ∧ R a.2 b.2) : EqualBy R (.map as) (.map bs)
  | object {as bs : List (String × Value)}
      (h : List.Forall₂ (fun a b => a.1 = b.1 ∧ R a.2 b.2) as bs) :
      EqualBy R (.object as) (.object bs)

theorem agrees_exchanged_iff {a b : Value} : agrees true a b = true ↔ (b == a) = true :=
  ⟨agrees_exchange, agrees_exchange⟩

theorem equalBy_of_beq {a b : Value} (h : (a == b) = true) :
    EqualBy (fun x y => (x == y) = true) a b := by
  change agrees false a b = true at h
  cases sameKind_of_agrees h with
  | undefined => exact .undefined
  | null => exact .null
  | boolean x y =>
      cases eq_of_beq h
      exact .boolean x
  | number x y => exact .number h
  | string x y =>
      cases eq_of_beq h
      exact .string x
  | date x y =>
      cases eq_of_beq h
      exact .date x
  | regex x y =>
      cases eq_of_beq h
      exact .regex x
  | array as bs => exact .array (itemsAgree_iff.mp h)
  | set as bs =>
      rcases agrees_set_iff.mp h with ⟨hlength, hall⟩
      simp only [agrees_exchanged_iff] at hall
      exact .set hlength hall
  | map as bs =>
      rcases agrees_map_iff.mp h with ⟨hlength, hall⟩
      exact .map hlength hall
  | object as bs => exact .object (fieldsAgree_iff.mp h)

theorem beq_of_equalBy {a b : Value} (h : EqualBy (fun x y => (x == y) = true) a b) :
    (a == b) = true := by
  change agrees false a b = true
  cases h with
  | undefined => rfl
  | null => rfl
  | boolean x => exact beq_self_eq_true x
  | number h => exact h
  | string x => exact beq_self_eq_true x
  | date x => exact beq_self_eq_true x
  | regex x => exact beq_self_eq_true x
  | array h => exact itemsAgree_iff.mpr h
  | set hlength hall =>
      simp only [← agrees_exchanged_iff] at hall
      exact agrees_set_iff.mpr ⟨hlength, hall⟩
  | map hlength hall => exact agrees_map_iff.mpr ⟨hlength, hall⟩
  | object h => exact fieldsAgree_iff.mpr h

/-- Equality is what one level of itself makes it. -/
theorem beq_iff_equalBy {a b : Value} :
    (a == b) = true ↔ EqualBy (fun x y => (x == y) = true) a b :=
  ⟨equalBy_of_beq, beq_of_equalBy⟩

theorem string?_congr {a b : Value} (h : (a == b) = true) : a.string? = b.string? := by
  cases equalBy_of_beq h with
  | _ => rfl

theorem beq_refl (a : Value) : (a == a) = true := by
  induction a using induction_parts with
  | step a ih =>
      refine beq_iff_equalBy.mpr ?_
      cases a with
      | undefined => exact .undefined
      | null => exact .null
      | boolean x => exact .boolean x
      | number x => exact .number (Number.same_refl x)
      | string x => exact .string x
      | date x => exact .date x
      | regex x => exact .regex x
      | array items => exact .array (List.forall₂_same.mpr ih)
      | set items => exact .set rfl fun item hitem => ⟨item, hitem, ih item hitem⟩
      | map entries =>
          refine .map rfl fun entry hentry => ⟨entry, hentry, ?_⟩
          exact ⟨ih _ (mem_parts_map_key hentry), ih _ (mem_parts_map_value hentry)⟩
      | object fields =>
          refine .object (List.forall₂_same.mpr fun field hfield => ⟨rfl, ?_⟩)
          exact ih _ (mem_parts_object hfield)

/-! ## Counting -/

/--
If all on the left is related to something on the right, and no two on the left to the same,
then different things on the right can be chosen as partners of all on the left.
-/
theorem exists_partners {α β : Type} {R : α → β → Prop} {as : List α} {bs : List β}
    (hfound : ∀ a ∈ as, ∃ b ∈ bs, R a b)
    (hapart : as.Pairwise fun a a' => ∀ b ∈ bs, R a b → ¬ R a' b) :
    ∃ partners, partners.Subperm bs ∧ List.Forall₂ R as partners := by
  induction as generalizing bs with
  | nil => exact ⟨[], List.nil_subperm, .nil⟩
  | cons a rest ih =>
      rcases List.pairwise_cons.mp hapart with ⟨hfirst, hrest⟩
      rcases hfound a List.mem_cons_self with ⟨b, hb, hab⟩
      rcases List.append_of_mem hb with ⟨before, after, rfl⟩
      have hmoved : (b :: (before ++ after)).Perm (before ++ b :: after) :=
        List.perm_middle.symm
      have hothers : ∃ partners, partners.Subperm (before ++ after) ∧
          List.Forall₂ R rest partners := by
        apply ih
        · intro a' ha'
          rcases hfound a' (List.mem_cons_of_mem a ha') with ⟨b', hb', hab'⟩
          refine ⟨b', ?_, hab'⟩
          rcases List.mem_cons.mp (hmoved.mem_iff.mpr hb') with rfl | hleft
          · exact absurd hab' (hfirst a' ha' b' hb hab)
          · exact hleft
        · apply hrest.imp
          intro x x' hxx' b' hb'
          exact hxx' b' (hmoved.mem_iff.mp (List.mem_cons_of_mem b hb'))
      rcases hothers with ⟨partners, hsub, hrelated⟩
      refine ⟨b :: partners, ?_, .cons hab hrelated⟩
      exact ((List.subperm_cons b).mpr hsub).trans hmoved.subperm

theorem length_le_of_found {α β : Type} {R : α → β → Prop} {as : List α} {bs : List β}
    (hfound : ∀ a ∈ as, ∃ b ∈ bs, R a b)
    (hapart : as.Pairwise fun a a' => ∀ b ∈ bs, R a b → ¬ R a' b) : as.length ≤ bs.length := by
  rcases exists_partners hfound hapart with ⟨partners, hsub, hrelated⟩
  rw [hrelated.length_eq]
  exact hsub.length_le

theorem exists_related_of_length_le {α β : Type} {R : α → β → Prop} {as : List α} {bs : List β}
    (hlength : bs.length ≤ as.length) (hfound : ∀ a ∈ as, ∃ b ∈ bs, R a b)
    (hapart : as.Pairwise fun a a' => ∀ b ∈ bs, R a b → ¬ R a' b) :
    ∀ b ∈ bs, ∃ a ∈ as, R a b := by
  rcases exists_partners hfound hapart with ⟨partners, hsub, hrelated⟩
  rw [hrelated.length_eq] at hlength
  intro b hb
  have hpartner : b ∈ partners := (hsub.perm_of_length_le hlength).mem_iff.mpr hb
  exact exists_mem_of_forall₂ hrelated.flip hpartner

/-! ## Well-formed values -/

def HasDistinctParts : Value → Prop
  | .set items => items.Pairwise fun a b => (a == b) = false
  | .map entries => entries.Pairwise fun a b => (a.1 == b.1) = false
  | _ => True

/-! ### Sets without repetition -/

def keep (kept : List Value) (item : Value) : List Value :=
  if item.isAmong kept then kept else kept ++ [item]

theorem distinct_eq_foldl (items : List Value) : distinct items = items.foldl keep [] := rfl

theorem keep_of_isAmong {kept : List Value} {item : Value} (h : item.isAmong kept = true) :
    keep kept item = kept :=
  if_pos h

theorem keep_of_not_isAmong {kept : List Value} {item : Value} (h : item.isAmong kept = false) :
    keep kept item = kept ++ [item] :=
  if_neg (Bool.eq_false_iff.mp h)

theorem subset_keep (kept : List Value) (item : Value) : kept ⊆ keep kept item := by
  cases h : item.isAmong kept with
  | true =>
      rw [keep_of_isAmong h]
      exact List.Subset.refl kept
  | false =>
      rw [keep_of_not_isAmong h]
      exact List.subset_append_left kept [item]

theorem exists_mem_keep (kept : List Value) (item : Value) :
    ∃ like ∈ keep kept item, (like == item) = true := by
  cases h : item.isAmong kept with
  | true =>
      rw [keep_of_isAmong h]
      exact List.any_eq_true.mp h
  | false =>
      rw [keep_of_not_isAmong h]
      exact ⟨item, List.mem_append_right kept List.mem_cons_self, beq_refl item⟩

theorem subset_foldl_keep (kept items : List Value) : kept ⊆ items.foldl keep kept := by
  induction items generalizing kept with
  | nil => exact List.Subset.refl kept
  | cons item rest ih => exact List.Subset.trans (subset_keep kept item) (ih (keep kept item))

theorem exists_mem_distinct {items : List Value} {item : Value} (h : item ∈ items) :
    ∃ kept ∈ distinct items, (kept == item) = true := by
  rcases List.append_of_mem h with ⟨before, after, rfl⟩
  rcases exists_mem_keep (before.foldl keep []) item with ⟨like, hlike, heq⟩
  rw [distinct_eq_foldl, List.foldl_append, List.foldl_cons]
  exact ⟨like, subset_foldl_keep _ after hlike, heq⟩

theorem distinct_concat (items : List Value) (item : Value) :
    distinct (items ++ [item]) = keep (distinct items) item := by
  rw [distinct_eq_foldl, List.foldl_append]
  rfl

theorem distinct_sublist (items : List Value) : (distinct items).Sublist items := by
  induction items using List.reverseRecOn with
  | nil => exact List.Sublist.refl []
  | append_singleton items item ih =>
      rw [distinct_concat]
      cases h : item.isAmong (distinct items) with
      | true =>
          rw [keep_of_isAmong h]
          exact ih.trans (List.sublist_append_left items [item])
      | false =>
          rw [keep_of_not_isAmong h]
          exact ih.append (List.Sublist.refl [item])

theorem mem_of_mem_distinct {items : List Value} {v : Value} (h : v ∈ distinct items) :
    v ∈ items :=
  (distinct_sublist items).subset h

theorem hasDistinctParts_distinct (items : List Value) :
    (set (distinct items)).HasDistinctParts := by
  rw [distinct_eq_foldl]
  apply List.foldlRecOn (motive := fun kept => (set kept).HasDistinctParts) items _
    List.Pairwise.nil
  intro kept hkept item hitem
  cases hamong : item.isAmong kept with
  | true =>
      rw [keep_of_isAmong hamong]
      exact hkept
  | false =>
      rw [keep_of_not_isAmong hamong]
      rw [isAmong, List.any_eq_false] at hamong
      refine List.pairwise_append.mpr ⟨hkept, List.pairwise_singleton _ _, ?_⟩
      intro other hother last hlast
      rw [List.mem_singleton.mp hlast]
      exact Bool.eq_false_iff.mpr (hamong other hother)

theorem distinct_of_hasDistinctParts {items : List Value} (h : (set items).HasDistinctParts) :
    distinct items = items := by
  have hall : ∀ kept rest : List Value, (set (kept ++ rest)).HasDistinctParts →
      rest.foldl keep kept = kept ++ rest := by
    intro kept rest hparts
    induction rest generalizing kept with
    | nil => exact (List.append_nil kept).symm
    | cons item rest ih =>
        have hnew : item.isAmong kept = false := by
          rw [isAmong, List.any_eq_false]
          intro other hother
          rw [(List.pairwise_append.mp hparts).2.2 other hother item List.mem_cons_self]
          exact Bool.false_ne_true
        rw [List.append_cons] at hparts
        rw [List.foldl_cons, keep_of_not_isAmong hnew, ih _ hparts, ← List.append_cons]
  exact hall [] items h

theorem distinct_distinct (items : List Value) : distinct (distinct items) = distinct items :=
  distinct_of_hasDistinctParts (hasDistinctParts_distinct items)

/-! ### Maps without repetition -/

theorem keep_cons_of_beq {first item : Value} (h : (first == item) = true) (kept : List Value) :
    keep (first :: kept) item = first :: kept := by
  apply keep_of_isAmong
  rw [isAmong, List.any_cons, h, Bool.true_or]

theorem keep_cons_of_not_beq {first item : Value} (h : (first == item) = false)
    (kept : List Value) : keep (first :: kept) item = first :: keep kept item := by
  have hamong : item.isAmong (first :: kept) = item.isAmong kept := by
    rw [isAmong, List.any_cons, h, Bool.false_or, isAmong]
  unfold keep
  rw [hamong]
  cases item.isAmong kept with
  | true => rfl
  | false => rfl

theorem keys_putEntry (key value : Value) (entries : List (Value × Value)) :
    (putEntry key value entries).map Prod.fst = keep (entries.map Prod.fst) key := by
  induction entries with
  | nil => rfl
  | cons entry rest ih =>
      unfold putEntry
      rw [List.map_cons]
      split
      · next h =>
          rw [keep_cons_of_beq h]
          rfl
      · next h =>
          rw [keep_cons_of_not_beq (Bool.eq_false_iff.mpr h), ← ih]
          rfl

theorem value_of_mem_putEntry {key value : Value} {entry : Value × Value}
    {entries : List (Value × Value)} (h : entry ∈ putEntry key value entries) :
    entry.2 = value ∨ ∃ old ∈ entries, old.2 = entry.2 := by
  induction entries with
  | nil =>
      rw [List.mem_singleton.mp h]
      exact .inl rfl
  | cons first rest ih =>
      unfold putEntry at h
      split at h
      · rcases List.mem_cons.mp h with rfl | hrest
        · exact .inl rfl
        · exact .inr ⟨entry, List.mem_cons_of_mem first hrest, rfl⟩
      · rcases List.mem_cons.mp h with rfl | hrest
        · exact .inr ⟨entry, List.mem_cons_self, rfl⟩
        · exact (ih hrest).imp_right List.exists_mem_cons_of_exists

def putAll (entries : List (Value × Value)) : List (Value × Value) :=
  entries.foldl (fun kept entry => putEntry entry.1 entry.2 kept) []

theorem mapOf_eq (entries : List (Value × Value)) : mapOf entries = .map (putAll entries) := rfl

theorem putAll_concat (entries : List (Value × Value)) (entry : Value × Value) :
    putAll (entries ++ [entry]) = putEntry entry.1 entry.2 (putAll entries) := by
  rw [putAll, List.foldl_append]
  rfl

theorem keys_putAll (entries : List (Value × Value)) :
    (putAll entries).map Prod.fst = distinct (entries.map Prod.fst) := by
  induction entries using List.reverseRecOn with
  | nil => rfl
  | append_singleton entries entry ih =>
      rw [putAll_concat, keys_putEntry, ih, List.map_append, List.map_singleton, distinct_concat]

theorem hasDistinctParts_putAll (entries : List (Value × Value)) :
    (map (putAll entries)).HasDistinctParts := by
  have hkeys := hasDistinctParts_distinct (entries.map Prod.fst)
  rw [← keys_putAll] at hkeys
  exact List.pairwise_map.mp hkeys

theorem exists_key_of_mem_putAll {entries : List (Value × Value)} {entry : Value × Value}
    (h : entry ∈ putAll entries) : ∃ given ∈ entries, given.1 = entry.1 := by
  have hkey : entry.1 ∈ distinct (entries.map Prod.fst) := by
    rw [← keys_putAll]
    exact List.mem_map_of_mem h
  exact List.mem_map.mp (mem_of_mem_distinct hkey)

theorem exists_value_of_mem_putAll {entries : List (Value × Value)} {entry : Value × Value}
    (h : entry ∈ putAll entries) : ∃ given ∈ entries, given.2 = entry.2 := by
  induction entries using List.reverseRecOn generalizing entry with
  | nil => cases h
  | append_singleton entries last ih =>
      rw [putAll_concat] at h
      rcases value_of_mem_putEntry h with hlast | ⟨old, hold, hvalue⟩
      · exact ⟨last, List.mem_append_right entries List.mem_cons_self, hlast.symm⟩
      · rcases ih hold with ⟨given, hgiven, heq⟩
        exact ⟨given, List.mem_append_left [last] hgiven, heq.trans hvalue⟩

/-! ### Every depth -/

/-- At every depth the parts of sets and maps are distinct. -/
inductive WellFormed : Value → Prop
  | intro {v : Value} (distinct : v.HasDistinctParts) (parts : ∀ part ∈ v.parts, WellFormed part) :
      WellFormed v

theorem WellFormed.distinct {v : Value} (h : v.WellFormed) : v.HasDistinctParts := by
  cases h with
  | intro distinct _ => exact distinct

theorem WellFormed.parts {v part : Value} (h : v.WellFormed) (hpart : part ∈ v.parts) :
    part.WellFormed := by
  cases h with
  | intro _ parts => exact parts part hpart

theorem wellFormed_of_parts_eq_nil {v : Value} (distinct : v.HasDistinctParts)
    (h : v.parts = []) : v.WellFormed := by
  refine .intro distinct fun part hpart => ?_
  rw [h] at hpart
  cases hpart

theorem WellFormed.setOf {items : List Value} (h : ∀ item ∈ items, item.WellFormed) :
    (setOf items).WellFormed := by
  constructor
  · exact hasDistinctParts_distinct items
  · intro part hpart
    exact h part (mem_of_mem_distinct hpart)

theorem WellFormed.mapOf {entries : List (Value × Value)}
    (h : ∀ entry ∈ entries, entry.1.WellFormed ∧ entry.2.WellFormed) :
    (mapOf entries).WellFormed := by
  refine .intro (hasDistinctParts_putAll entries) fun part hpart => ?_
  rcases List.mem_append.mp hpart with hkey | hvalue
  · rcases List.mem_map.mp hkey with ⟨entry, hentry, rfl⟩
    rcases exists_key_of_mem_putAll hentry with ⟨given, hgiven, heq⟩
    rw [← heq]
    exact (h given hgiven).1
  · rcases List.mem_map.mp hvalue with ⟨entry, hentry, rfl⟩
    rcases exists_value_of_mem_putAll hentry with ⟨given, hgiven, heq⟩
    rw [← heq]
    exact (h given hgiven).2

/-! ## The laws -/

structure IsEquivalenceOn (P : Value → Prop) : Prop where
  symm : ∀ {a b}, P a → P b → (a == b) = true → (b == a) = true
  trans : ∀ {a b c}, P a → P b → P c → (a == b) = true → (b == c) = true → (a == c) = true

section Step

variable {P : Value → Prop} {a b c : Value}

theorem IsEquivalenceOn.apart_of_set (h : IsEquivalenceOn P) {as bs : List Value}
    (ha : ∀ x ∈ as, P x) (hb : ∀ y ∈ bs, P y) (hdistinct : (Value.set as).HasDistinctParts) :
    as.Pairwise fun x x' => ∀ y ∈ bs, (y == x) = true → ¬ (y == x') = true := by
  refine List.Pairwise.imp_of_mem ?_ hdistinct
  intro x x' hx hx' hne y hy hyx hyx'
  have hxy := h.symm (hb y hy) (ha x hx) hyx
  rw [h.trans (ha x hx) (hb y hy) (ha x' hx') hxy hyx'] at hne
  cases hne

theorem IsEquivalenceOn.apart_of_map (h : IsEquivalenceOn P) {as bs : List (Value × Value)}
    (ha : ∀ x ∈ as, P x.1) (hb : ∀ y ∈ bs, P y.1) (hdistinct : (Value.map as).HasDistinctParts) :
    as.Pairwise fun x x' => ∀ y ∈ bs, (x.1 == y.1) = true ∧ (x.2 == y.2) = true →
      ¬ ((x'.1 == y.1) = true ∧ (x'.2 == y.2) = true) := by
  refine List.Pairwise.imp_of_mem ?_ hdistinct
  intro x x' hx hx' hne y hy hxy hx'y
  have hyx' := h.symm (ha x' hx') (hb y hy) hx'y.1
  rw [h.trans (ha x hx) (hb y hy) (ha x' hx') hxy.1 hyx'] at hne
  cases hne

theorem forall₂_comp_of_mem {α : Type} {R S T : α → α → Prop} {as bs cs : List α}
    (hab : List.Forall₂ R as bs) (hbc : List.Forall₂ S bs cs)
    (hcomp : ∀ a ∈ as, ∀ b ∈ bs, ∀ c ∈ cs, R a b → S b c → T a c) : List.Forall₂ T as cs := by
  induction hab generalizing cs with
  | nil =>
      cases hbc
      exact .nil
  | cons hR _ ih =>
      cases hbc with
      | cons hS hrest =>
          refine .cons (hcomp _ List.mem_cons_self _ List.mem_cons_self _ List.mem_cons_self hR hS)
            (ih hrest ?_)
          intro a ha b hb c hc
          exact hcomp a (List.mem_cons_of_mem _ ha) b (List.mem_cons_of_mem _ hb) c
            (List.mem_cons_of_mem _ hc)

theorem beq_symm_of_parts (h : IsEquivalenceOn P) (ha : ∀ part ∈ a.parts, P part)
    (hb : ∀ part ∈ b.parts, P part) (hdistinct : a.HasDistinctParts) (hab : (a == b) = true) :
    (b == a) = true := by
  refine beq_iff_equalBy.mpr ?_
  cases beq_iff_equalBy.mp hab with
  | undefined => exact .undefined
  | null => exact .null
  | boolean x => exact .boolean x
  | number hsame => exact .number (Number.same_symm hsame)
  | string x => exact .string x
  | date x => exact .date x
  | regex x => exact .regex x
  | array hitems =>
      refine .array (forall₂_of_mem hitems ?_).flip
      intro x hx y hy hxy
      exact h.symm (ha x hx) (hb y hy) hxy
  | set hlength hall =>
      have hapart := h.apart_of_set ha hb hdistinct
      have hfound := exists_related_of_length_le (Nat.le_of_eq hlength.symm) hall hapart
      refine .set hlength.symm fun y hy => ?_
      rcases hfound y hy with ⟨x, hx, hyx⟩
      exact ⟨x, hx, h.symm (hb y hy) (ha x hx) hyx⟩
  | map hlength hall =>
      have hapart := h.apart_of_map (fun x hx => ha _ (mem_parts_map_key hx))
        (fun y hy => hb _ (mem_parts_map_key hy)) hdistinct
      have hfound := exists_related_of_length_le (Nat.le_of_eq hlength.symm) hall hapart
      refine .map hlength.symm fun y hy => ?_
      rcases hfound y hy with ⟨x, hx, hkey, hvalue⟩
      refine ⟨x, hx, ?_, ?_⟩
      · exact h.symm (ha _ (mem_parts_map_key hx)) (hb _ (mem_parts_map_key hy)) hkey
      · exact h.symm (ha _ (mem_parts_map_value hx)) (hb _ (mem_parts_map_value hy)) hvalue
  | object hfields =>
      refine .object (forall₂_of_mem hfields ?_).flip
      intro x hx y hy hxy
      exact ⟨hxy.1.symm, h.symm (ha _ (mem_parts_object hx)) (hb _ (mem_parts_object hy)) hxy.2⟩

theorem beq_trans_of_parts (h : IsEquivalenceOn P) (ha : ∀ part ∈ a.parts, P part)
    (hb : ∀ part ∈ b.parts, P part) (hc : ∀ part ∈ c.parts, P part) (hab : (a == b) = true)
    (hbc : (b == c) = true) : (a == c) = true := by
  refine beq_iff_equalBy.mpr ?_
  cases beq_iff_equalBy.mp hab with
  | number hsame =>
      cases beq_iff_equalBy.mp hbc with
      | number hsame' => exact .number (Number.same_trans hsame hsame')
  | array hitems =>
      cases beq_iff_equalBy.mp hbc with
      | array hitems' =>
          refine .array (forall₂_comp_of_mem hitems hitems' ?_)
          intro x hx y hy z hz
          exact h.trans (ha x hx) (hb y hy) (hc z hz)
  | set hlength hall =>
      cases beq_iff_equalBy.mp hbc with
      | set hlength' hall' =>
          refine .set (hlength.trans hlength') fun x hx => ?_
          rcases hall x hx with ⟨y, hy, hyx⟩
          rcases hall' y hy with ⟨z, hz, hzy⟩
          exact ⟨z, hz, h.trans (hc z hz) (hb y hy) (ha x hx) hzy hyx⟩
  | map hlength hall =>
      cases beq_iff_equalBy.mp hbc with
      | map hlength' hall' =>
          refine .map (hlength.trans hlength') fun x hx => ?_
          rcases hall x hx with ⟨y, hy, hkey, hvalue⟩
          rcases hall' y hy with ⟨z, hz, hkey', hvalue'⟩
          refine ⟨z, hz, ?_, ?_⟩
          · exact h.trans (ha _ (mem_parts_map_key hx)) (hb _ (mem_parts_map_key hy))
              (hc _ (mem_parts_map_key hz)) hkey hkey'
          · exact h.trans (ha _ (mem_parts_map_value hx)) (hb _ (mem_parts_map_value hy))
              (hc _ (mem_parts_map_value hz)) hvalue hvalue'
  | object hfields =>
      cases beq_iff_equalBy.mp hbc with
      | object hfields' =>
          refine .object (forall₂_comp_of_mem hfields hfields' ?_)
          intro x hx y hy z hz hxy hyz
          refine ⟨hxy.1.trans hyz.1, ?_⟩
          exact h.trans (ha _ (mem_parts_object hx)) (hb _ (mem_parts_object hy))
            (hc _ (mem_parts_object hz)) hxy.2 hyz.2
  | _ => exact beq_iff_equalBy.mp hbc

end Step

/-- By the steps, the laws hold among well-formed values of any size. -/
theorem isEquivalenceOn_of_sizeOf_lt (n : Nat) :
    IsEquivalenceOn fun v => v.WellFormed ∧ sizeOf v < n := by
  induction n with
  | zero =>
      constructor
      · intro a b ha
        exact absurd ha.2 (Nat.not_lt_zero _)
      · intro a b c ha
        exact absurd ha.2 (Nat.not_lt_zero _)
  | succ n ih =>
      have hparts : ∀ {v : Value}, v.WellFormed ∧ sizeOf v < n + 1 →
          ∀ part ∈ v.parts, part.WellFormed ∧ sizeOf part < n := by
        intro v hv part hpart
        have hlt := sizeOf_lt_of_mem_parts hpart
        exact ⟨hv.1.parts hpart, by omega⟩
      constructor
      · intro a b ha hb
        exact beq_symm_of_parts ih (hparts ha) (hparts hb) ha.1.distinct
      · intro a b c ha hb hc
        exact beq_trans_of_parts ih (hparts ha) (hparts hb) (hparts hc)

theorem isEquivalenceOn_wellFormed : IsEquivalenceOn WellFormed where
  symm {a b} ha hb := by
    have h := isEquivalenceOn_of_sizeOf_lt (sizeOf a + sizeOf b + 1)
    exact h.symm ⟨ha, by omega⟩ ⟨hb, by omega⟩
  trans {a b c} ha hb hc := by
    have h := isEquivalenceOn_of_sizeOf_lt (sizeOf a + sizeOf b + sizeOf c + 1)
    exact h.trans ⟨ha, by omega⟩ ⟨hb, by omega⟩ ⟨hc, by omega⟩

example : ((set [.null, .null] : Value) == .set [.null, .undefined]) = true ∧
    ((set [.null, .undefined] : Value) == .set [.null, .null]) = false := by
  decide

/--
Every value equals itself, and among well-formed values equality can be turned around and
chained.
-/
theorem beq_equivalence :
    (∀ a : Value, (a == a) = true) ∧
      (∀ a b : Value, a.WellFormed → b.WellFormed → (a == b) = true → (b == a) = true) ∧
      ∀ a b c : Value, a.WellFormed → b.WellFormed → c.WellFormed →
        (a == b) = true → (b == c) = true → (a == c) = true := by
  refine ⟨beq_refl, ?_, ?_⟩
  · intro a b ha hb
    exact isEquivalenceOn_wellFormed.symm ha hb
  · intro a b c ha hb hc
    exact isEquivalenceOn_wellFormed.trans ha hb hc

theorem beq_equivalence_of_nan_and_zeros :
    let entry : Number → Value := fun n => mapOf [(.string "k", .number n)]
    let a : Value := setOf [.number .nan, entry .zero]
    let b : Value := setOf [entry (.neg .zero), .number .nan]
    a.WellFormed ∧ b.WellFormed ∧ (a == b) = true ∧ (b == a) = true ∧ (a == a) = true := by
  intro entry a b
  have hnumber : ∀ n : Number, (Value.number n).WellFormed := by
    intro n
    exact wellFormed_of_parts_eq_nil trivial rfl
  have hkey : (Value.string "k").WellFormed := wellFormed_of_parts_eq_nil trivial rfl
  have hentry : ∀ n : Number, (entry n).WellFormed := by
    intro n
    exact WellFormed.mapOf (List.forall_mem_singleton.mpr ⟨hkey, hnumber n⟩)
  have hpair : ∀ {x y : Value}, x.WellFormed → y.WellFormed → (setOf [x, y]).WellFormed := by
    intro x y hx hy
    refine WellFormed.setOf (List.forall_mem_cons.mpr ⟨hx, ?_⟩)
    exact List.forall_mem_singleton.mpr hy
  have ha : a.WellFormed := hpair (hnumber .nan) (hentry .zero)
  have hb : b.WellFormed := hpair (hentry (.neg .zero)) (hnumber .nan)
  have hab : (a == b) = true := by decide
  have hba : (b == a) = true := beq_equivalence.2.1 a b ha hb hab
  exact ⟨ha, hb, hab, hba, beq_equivalence.2.2 a b a ha hb ha hab hba⟩

end Value
end RecordFilter
