import RecordFilter.Proofs.Value.Equality

/-!
# Building sets and maps

A set is built by leaving out what equals an item kept before, and a map by putting one entry
after another.  Putting an entry does to the keys what keeping an item does to a set: a new key
comes last, and a key that equals an earlier one leaves the keys as they are.  So the keys of a
map are what a set would keep of all the keys given.

The value under a key is the one put there last.  This is seen through tests of keys: a test that
equality respects, and that only equal keys pass, finds in the map what it finds last in the
list.  Being equal to a well-formed key is such a test, and so is being a certain string.

The main statement puts this together: in sets and maps that are built from lists nothing is
repeated and nothing is lost but earlier values of a key.
-/

namespace RecordFilter

namespace Value

/-! ## First occurrences -/

def firsts (items : List Value) : List Value :=
  (items.zipIdx.filter fun (item, place) => !item.isAmong (items.take place)).map Prod.fst

theorem firsts_concat (items : List Value) (item : Value) :
    firsts (items ++ [item]) = firsts items ++ if item.isAmong items then [] else [item] := by
  have hbefore : (items.zipIdx.filter fun (x, place) =>
      !x.isAmong ((items ++ [item]).take place)) =
      items.zipIdx.filter fun (x, place) => !x.isAmong (items.take place) := by
    apply List.filter_congr
    intro placed hmem
    rcases placed with ⟨x, place⟩
    have hlt := List.snd_lt_of_mem_zipIdx hmem
    simp only
    rw [List.take_append_of_le_length (Nat.le_of_lt hlt)]
  unfold firsts
  rw [List.zipIdx_append, List.filter_append, hbefore, List.map_append]
  congr 1
  cases h : item.isAmong items with
  | true => simp [h]
  | false => simp [h]

/-- Among well-formed items it is enough to compare with those that are kept. -/
theorem isAmong_distinct {items : List Value} {item : Value}
    (hitems : ∀ x ∈ items, x.WellFormed) (hitem : item.WellFormed) :
    item.isAmong (distinct items) = item.isAmong items := by
  rw [Bool.eq_iff_iff, isAmong, isAmong, List.any_eq_true, List.any_eq_true]
  constructor
  · intro hkept
    rcases hkept with ⟨x, hx, heq⟩
    exact ⟨x, mem_of_mem_distinct hx, heq⟩
  · intro hgiven
    rcases hgiven with ⟨x, hx, heq⟩
    rcases exists_mem_distinct hx with ⟨kept, hkept, hlike⟩
    have hwf := hitems kept (mem_of_mem_distinct hkept)
    exact ⟨kept, hkept, isEquivalenceOn_wellFormed.trans hwf (hitems x hx) hitem hlike heq⟩

theorem distinct_eq_firsts {items : List Value} (h : ∀ item ∈ items, item.WellFormed) :
    distinct items = firsts items := by
  induction items using List.reverseRecOn with
  | nil => rfl
  | append_singleton items item ih =>
      rcases List.forall_mem_append.mp h with ⟨hitems, hlast⟩
      have hamong := isAmong_distinct hitems (hlast item List.mem_cons_self)
      rw [distinct_concat, firsts_concat, keep, hamong, ih hitems]
      cases item.isAmong items with
      | true => exact (List.append_nil (firsts items)).symm
      | false => rfl

/-! ## Values under a key -/

def valueAt (test : Value → Bool) (entries : List (Value × Value)) : Option Value :=
  (entries.find? fun entry => test entry.1).map Prod.snd

theorem valueAt_cons (test : Value → Bool) (entry : Value × Value) (rest : List (Value × Value)) :
    valueAt test (entry :: rest) = if test entry.1 then some entry.2 else valueAt test rest := by
  rw [valueAt, List.find?_cons]
  cases test entry.1 with
  | true => rfl
  | false => rfl

/-- Among the keys with a property the test tells apart what equality does, and passes one key. -/
structure PicksOne (test : Value → Bool) (P : Value → Prop) : Prop where
  congr : ∀ {a b}, P a → P b → (a == b) = true → test a = test b
  single : ∀ {a b}, P a → P b → test a = true → test b = true → (a == b) = true

namespace PicksOne

variable {test : Value → Bool} {P : Value → Prop} {key value : Value}
  {entries : List (Value × Value)}

theorem valueAt_putEntry (h : PicksOne test P) (hkey : P key) (hentries : ∀ e ∈ entries, P e.1) :
    valueAt test (putEntry key value entries) =
      if test key then some value else valueAt test entries := by
  induction entries with
  | nil => exact valueAt_cons test (key, value) []
  | cons entry rest ih =>
      rcases List.forall_mem_cons.mp hentries with ⟨hentry, hrest⟩
      unfold putEntry
      split
      · next heq =>
          rw [valueAt_cons, valueAt_cons, h.congr hentry hkey heq]
          split
          · rfl
          · rfl
      · next hne =>
          rw [valueAt_cons, valueAt_cons, ih hrest]
          cases hfirst : test entry.1 with
          | true =>
              have htest : test key = false := by
                rw [Bool.eq_false_iff]
                intro htest
                exact hne (h.single hentry hkey hfirst htest)
              rw [htest]
              rfl
          | false => rfl

theorem valueAt_putAll (h : PicksOne test P) (hentries : ∀ e ∈ entries, P e.1) :
    valueAt test (putAll entries) = valueAt test entries.reverse := by
  induction entries using List.reverseRecOn with
  | nil => rfl
  | append_singleton entries entry ih =>
      rcases List.forall_mem_append.mp hentries with ⟨hbefore, hlast⟩
      have hput : ∀ e ∈ putAll entries, P e.1 := by
        intro e he
        rcases exists_key_of_mem_putAll he with ⟨given, hgiven, hkey⟩
        rw [← hkey]
        exact hbefore given hgiven
      rw [putAll_concat, h.valueAt_putEntry (hlast entry List.mem_cons_self) hput, ih hbefore,
        List.reverse_concat, valueAt_cons]

end PicksOne

theorem picksOne_beq {key : Value} (hkey : key.WellFormed) : PicksOne (· == key) WellFormed where
  congr {a b} ha hb hab := by
    rw [Bool.eq_iff_iff]
    constructor
    · intro hkeya
      exact isEquivalenceOn_wellFormed.trans hb ha hkey
        (isEquivalenceOn_wellFormed.symm ha hb hab) hkeya
    · intro hkeyb
      exact isEquivalenceOn_wellFormed.trans ha hb hkey hab hkeyb
  single {a b} ha hb hkeya hkeyb :=
    isEquivalenceOn_wellFormed.trans ha hkey hb hkeya
      (isEquivalenceOn_wellFormed.symm hb hkey hkeyb)

theorem eq_string_of_string? {v : Value} {s : String} (h : (v.string? == some s) = true) :
    v = .string s := by
  cases v with
  | string t => exact congrArg Value.string (Option.some.inj (eq_of_beq h))
  | _ => cases h

theorem picksOne_string (name : String) :
    PicksOne (·.string? == some name) fun _ => True where
  congr _ _ h := by rw [string?_congr h]
  single _ _ ha hb := by
    rw [eq_string_of_string? ha, eq_string_of_string? hb]
    exact beq_refl _

theorem valueAt_of_mem {entries : List (Value × Value)} (h : (map entries).HasDistinctParts)
    {entry : Value × Value} (hmem : entry ∈ entries) :
    valueAt (· == entry.1) entries = some entry.2 := by
  induction entries with
  | nil => cases hmem
  | cons first rest ih =>
      rcases List.pairwise_cons.mp h with ⟨hfirst, hrest⟩
      rcases List.mem_cons.mp hmem with rfl | hlater
      · rw [valueAt_cons, if_pos (beq_refl _)]
      · rw [valueAt_cons, hfirst entry hlater]
        exact ih hrest hlater

/-! ## Nothing is lost -/

/--
Of some items those are kept that stand for all of them, and no two are the same.  What is kept
stands on the left of a comparison.
-/
structure Represents (same : Value → Value → Bool) (kept items : List Value) : Prop where
  sublist : kept.Sublist items
  distinct : kept.Pairwise fun a b => same a b = false
  found : ∀ item ∈ items, ∃ like ∈ kept, same like item = true

/-- No two keys are equal, each stands where it came first, and it has its last value. -/
structure KeepsLast (kept entries : List (Value × Value)) : Prop where
  distinct : kept.Pairwise fun a b => (a.1 == b.1) = false ∧ (b.1 == a.1) = false
  keys : kept.map Prod.fst = firsts (entries.map Prod.fst)
  last : ∀ entry ∈ kept, valueAt (· == entry.1) entries.reverse = some entry.2

theorem represents_distinct (items : List Value) :
    Represents (· == ·) (distinct items) items where
  sublist := distinct_sublist items
  distinct := hasDistinctParts_distinct items
  found _ hitem := exists_mem_distinct hitem

theorem beq_eq_false_symm {a b : Value} (ha : a.WellFormed) (hb : b.WellFormed)
    (h : (a == b) = false) : (b == a) = false := by
  rw [Bool.eq_false_iff]
  intro hba
  rw [isEquivalenceOn_wellFormed.symm hb ha hba] at h
  cases h

theorem represents_exchanged {items : List Value} (h : ∀ item ∈ items, item.WellFormed) :
    Represents (fun a b => b == a) (distinct items) items where
  sublist := distinct_sublist items
  distinct := by
    refine List.Pairwise.imp_of_mem ?_ (hasDistinctParts_distinct items)
    intro a b ha hb
    exact beq_eq_false_symm (h a (mem_of_mem_distinct ha)) (h b (mem_of_mem_distinct hb))
  found item hitem := by
    rcases exists_mem_distinct hitem with ⟨like, hlike, heq⟩
    have hwf := h like (mem_of_mem_distinct hlike)
    exact ⟨like, hlike, isEquivalenceOn_wellFormed.symm hwf (h item hitem) heq⟩

example :
    let once : Value := .set [.null, .undefined]
    let twice : Value := .set [.null, .null]
    setOf [twice, once] = .set [twice] ∧ setOf [once, twice] = .set [once, twice] :=
  ⟨rfl, rfl⟩

theorem keepsLast_putAll {entries : List (Value × Value)}
    (h : ∀ entry ∈ entries, entry.1.WellFormed) : KeepsLast (putAll entries) entries := by
  have hkeys : ∀ key ∈ entries.map Prod.fst, key.WellFormed := List.forall_mem_map.mpr h
  have hput : ∀ entry ∈ putAll entries, entry.1.WellFormed := by
    intro entry hentry
    rcases exists_key_of_mem_putAll hentry with ⟨given, hgiven, hkey⟩
    rw [← hkey]
    exact h given hgiven
  have hdistinct := hasDistinctParts_putAll entries
  refine ⟨?_, ?_, ?_⟩
  · refine List.Pairwise.imp_of_mem ?_ hdistinct
    intro a b ha hb hne
    exact ⟨hne, beq_eq_false_symm (hput a ha) (hput b hb) hne⟩
  · rw [keys_putAll, distinct_eq_firsts hkeys]
  · intro entry hentry
    rw [← (picksOne_beq (hput entry hentry)).valueAt_putAll h]
    exact valueAt_of_mem hdistinct hentry

/--
A set keeps, in their order, items of which none is found equal to an earlier one, and for every
item one that is found equal to it; building it again changes nothing.  If the items are
well-formed, it does not matter on which side they are compared, the set is well-formed, and it
keeps the first of equal items.  A map with well-formed keys keeps each key where it came first,
with the value that came last, and looking up a string finds the last value under it.
-/
theorem sets_and_maps_drop_repetitions :
    (∀ items : List Value, ∃ kept, setOf items = .set kept ∧
      Represents (· == ·) kept items ∧ setOf kept = .set kept ∧
      ((∀ item ∈ items, item.WellFormed) → (setOf items).WellFormed ∧
        Represents (fun a b => b == a) kept items ∧ kept = firsts items)) ∧
    (∀ entries : List (Value × Value), (∀ entry ∈ entries, entry.1.WellFormed) →
      ∃ kept, mapOf entries = .map kept ∧ KeepsLast kept entries ∧
        ((∀ entry ∈ entries, entry.2.WellFormed) → (mapOf entries).WellFormed)) ∧
    ∀ (entries : List (Value × Value)) (name : String),
      (mapOf entries).get? name = valueAt (·.string? == some name) entries.reverse := by
  refine ⟨?_, ?_, ?_⟩
  · intro items
    refine ⟨distinct items, rfl, represents_distinct items, ?_, ?_⟩
    · rw [setOf, distinct_distinct]
    · intro h
      exact ⟨WellFormed.setOf h, represents_exchanged h, distinct_eq_firsts h⟩
  · intro entries h
    refine ⟨putAll entries, mapOf_eq entries, keepsLast_putAll h, ?_⟩
    intro hvalues
    exact WellFormed.mapOf fun entry hentry => ⟨h entry hentry, hvalues entry hentry⟩
  · intro entries name
    exact (picksOne_string name).valueAt_putAll fun _ _ => trivial

theorem sets_and_maps_drop_repetitions_of_nan_and_zeros :
    let nan : Value := .number .nan
    let zero : Value := .number .zero
    let first : Value := setOf [nan, zero]
    let second : Value := setOf [.number (.neg .zero), nan]
    let items := [nan, first, nan, second, zero]
    let entries : List (Value × Value) :=
      [(first, .null), (.string "k", .null), (second, .string "last"), (.string "k", zero)]
    (∀ item ∈ items, item.WellFormed) ∧ (∀ entry ∈ entries, entry.1.WellFormed) ∧
      firsts items = [nan, first, zero] ∧ setOf items = .set [nan, first, zero] ∧
      Represents (fun a b => b == a) [nan, first, zero] items ∧
      mapOf entries = .map [(first, .string "last"), (.string "k", zero)] ∧
      KeepsLast [(first, .string "last"), (.string "k", zero)] entries ∧
      (mapOf entries).get? "k" = some zero ∧ (mapOf entries).get? "last" = none := by
  intro nan zero first second items entries
  have hnumber : ∀ n : Number, (Value.number n).WellFormed := by
    intro n
    exact wellFormed_of_parts_eq_nil trivial rfl
  have hkey : (Value.string "k").WellFormed := wellFormed_of_parts_eq_nil trivial rfl
  have hpair : ∀ m n : Number, (setOf [.number m, .number n]).WellFormed := by
    intro m n
    apply WellFormed.setOf
    simp [hnumber]
  have hitems : ∀ item ∈ items, item.WellFormed := by
    simp [items, nan, zero, first, second, hnumber, hpair]
  have hentries : ∀ entry ∈ entries, entry.1.WellFormed := by
    simp [entries, nan, zero, first, second, hkey, hpair]
  have hfirsts : firsts items = [nan, first, zero] := rfl
  rcases sets_and_maps_drop_repetitions with ⟨hset, hmap, hget⟩
  rcases hset items with ⟨kept, hkept, -, -, hwf⟩
  rcases hwf hitems with ⟨-, hrepresents, rfl⟩
  rcases hmap entries hentries with ⟨put, hput, hlast, -⟩
  have hbuilt : mapOf entries = .map [(first, .string "last"), (.string "k", zero)] := rfl
  rw [hbuilt] at hput
  cases hput
  exact ⟨hitems, hentries, hfirsts, hkept, hrepresents, hbuilt, hlast, hget entries "k",
    hget entries "last"⟩

end Value
end RecordFilter
