import RecordFilter.Proofs.Expression.Parts

/-!
# What a part of a document says itself

A group and a filter list members, and what else they say is an operator that joins them.  It is
valid if the part has the form of an object or of an array of both fields, if its fields are those
of its level, each of the right kind, and if the operator names a connective.

The main statements say that this is exactly what is accepted of a part before its members are
read, and that what is found wrong then does not depend on the members.
-/

namespace RecordFilter

theorem Connective.ofName?_eq_some_iff {text : String} {connective : Connective} :
    ofName? text = some connective ↔ text = connective.name := by
  constructor
  · intro h
    unfold ofName? at h
    split at h
    · next htext =>
        cases h
        exact beq_iff_eq.mp htext
    · split at h
      · next htext =>
          cases h
          exact beq_iff_eq.mp htext
      · cases h
  · rintro rfl
    cases connective <;> rfl

namespace Document

/-! ## What a group or a filter says itself -/

def last? (name : String) (fields : List (String × Json)) : Option Json :=
  fields.reverse.lookup name

def fieldsOf (members : String) (part : Json) : List (String × Json) :=
  Layout.given ["operator", members] part

def itemsOf : Json → List Json
  | .array items => items
  | _ => []

def membersOf (members : String) (part : Json) : List Json :=
  ((last? members (fieldsOf members part)).map itemsOf).getD []

inductive IsOwnField (members : String) : String × Json → Prop where
  | noOperator : IsOwnField members ("operator", .null)
  | operator (name : String) : IsOwnField members ("operator", .string name)
  | members (items : List Json) : IsOwnField members (members, .array items)

inductive Joins : Option Json → Connective → Prop where
  | absent : Joins none .all
  | null : Joins (some .null) .all
  | named (connective : Connective) : Joins (some (.string connective.name)) connective

/-- What a part with members says itself is valid: its form, its fields and its operator. -/
structure Declares (members : String) (part : Json) (connective : Connective)
    (items : List Json) : Prop where
  form : (∃ fields, part = .object fields) ∨ ∃ values, part = .array values ∧ values.length = 2
  owned : ∀ field ∈ fieldsOf members part, IsOwnField members field
  joined : Joins (last? "operator" (fieldsOf members part)) connective
  listed : last? members (fieldsOf members part) = some (.array items)

theorem Declares.membersOf_eq {members : String} {part : Json} {connective : Connective}
    {items : List Json} (h : Declares members part connective items) :
    membersOf members part = items := by
  rw [membersOf, h.listed]
  rfl

theorem last?_cons (name : String) (field : String × Json) (rest : List (String × Json)) :
    last? name (field :: rest) = (last? name rest).or (last? name [field]) := by
  rw [last?, List.reverse_cons, List.lookup_append]
  rfl

theorem mem_of_last? {name : String} {fields : List (String × Json)} {json : Json}
    (h : last? name fields = some json) : (name, json) ∈ fields := by
  rcases List.lookup_eq_some_iff.mp h with ⟨before, after, hfields, _⟩
  have hmem : (name, json) ∈ fields.reverse := by
    rw [hfields]
    exact List.mem_append_right before List.mem_cons_self
  exact List.mem_reverse.mp hmem

theorem connectiveOf_some_eq_ok_iff {steps : List Step} {text : String}
    {connective : Connective} :
    connectiveOf steps (some text) = .ok connective ↔ text = connective.name := by
  rw [← Connective.ofName?_eq_some_iff]
  unfold connectiveOf
  simp only
  cases Connective.ofName? text <;> simp

section Members

variable {name members : String}

def noted (members : String) (fields : List (String × Json)) (start : MemberDraft) :
    MemberDraft where
  operator := ((last? "operator" fields).map Json.string?).getD start.operator
  members := ((last? members fields).map fun json => some (itemsOf json)).getD start.members

theorem noted_cons (field : String × Json) (rest : List (String × Json)) (start : MemberDraft) :
    noted members (field :: rest) start = noted members rest (noted members [field] start) := by
  unfold noted
  rw [last?_cons "operator", last?_cons members]
  cases last? "operator" rest <;> cases last? members rest <;> rfl

theorem putNamed_operator (json : Json) (start : MemberDraft) :
    (memberLayout name members).putNamed start ("operator", json) =
      json.readText >>= fun text => pure { start with operator := text } :=
  rfl

theorem IsOwnField.exists_items {json : Json} (h : IsOwnField members (members, json))
    (hmembers : members ≠ "operator") : ∃ items, json = .array items := by
  generalize hfield : (members, json) = field at h
  cases h with
  | members items =>
      cases hfield
      exact ⟨items, rfl⟩
  | _ =>
      cases hfield
      exact absurd rfl hmembers

theorem IsOwnField.null_or_string {json : Json} (h : IsOwnField members ("operator", json))
    (hmembers : members ≠ "operator") : json = .null ∨ ∃ text, json = .string text := by
  generalize hfield : ("operator", json) = field at h
  cases h with
  | noOperator =>
      cases hfield
      exact .inl rfl
  | operator text =>
      cases hfield
      exact .inr ⟨text, rfl⟩
  | members items =>
      cases hfield
      exact absurd rfl hmembers

variable (hmembers : members ≠ "operator")
include hmembers

theorem noted_operator (json : Json) (start : MemberDraft) :
    noted members [("operator", json)] start = { start with operator := json.string? } := by
  have hnone : last? members [("operator", json)] = none := by
    simp [last?, List.lookup_cons, beq_eq_false_iff_ne.mpr hmembers]
  rw [noted, hnone]
  rfl

theorem noted_members (json : Json) (start : MemberDraft) :
    noted members [(members, json)] start = { start with members := some (itemsOf json) } := by
  have hnone : last? "operator" [(members, json)] = none := by
    simp [last?, List.lookup_cons, beq_eq_false_iff_ne.mpr hmembers.symm]
  have hsome : last? members [(members, json)] = some json := by
    simp [last?]
  rw [noted, hnone, hsome]
  rfl

theorem putNamed_members (json : Json) (start : MemberDraft) :
    (memberLayout name members).putNamed start (members, json) =
      json.readSequence >>= fun items => pure { start with members := some items } := by
  simp [Layout.putNamed, memberLayout, hmembers]

theorem putNamed_of_isOwnField {field : String × Json} (h : IsOwnField members field)
    (start : MemberDraft) :
    (memberLayout name members).putNamed start field = .ok (noted members [field] start) := by
  cases h with
  | noOperator =>
      rw [noted_operator hmembers]
      rfl
  | operator text =>
      rw [noted_operator hmembers]
      rfl
  | members items =>
      rw [noted_members hmembers, putNamed_members hmembers]
      rfl

theorem isOwnField_of_putNamed {field : String × Json} {start draft : MemberDraft}
    (h : (memberLayout name members).putNamed start field = .ok draft) :
    IsOwnField members field := by
  obtain ⟨key, json⟩ := field
  rcases List.mem_pair.mp (Layout.putNamed_eq_ok h).1 with rfl | rfl
  · rw [putNamed_operator] at h
    rcases bind_eq_ok.mp h with ⟨text, htext, _⟩
    cases json <;> cases htext
    · exact .noOperator
    · exact .operator _
  · rw [putNamed_members hmembers] at h
    rcases bind_eq_ok.mp h with ⟨items, hitems, _⟩
    cases json <;> cases hitems
    exact .members _

theorem putNamed_eq_ok_iff {field : String × Json} {start draft : MemberDraft} :
    (memberLayout name members).putNamed start field = .ok draft ↔
      IsOwnField members field ∧ draft = noted members [field] start := by
  constructor
  · intro h
    have hown := isOwnField_of_putNamed hmembers h
    rw [putNamed_of_isOwnField hmembers hown] at h
    exact ⟨hown, (Except.ok.inj h).symm⟩
  · rintro ⟨hown, rfl⟩
    exact putNamed_of_isOwnField hmembers hown start

theorem foldlM_putNamed_eq_ok_iff {fields : List (String × Json)} {start draft : MemberDraft} :
    fields.foldlM (memberLayout name members).putNamed start = .ok draft ↔
      (∀ field ∈ fields, IsOwnField members field) ∧ draft = noted members fields start := by
  induction fields generalizing start with
  | nil =>
      constructor
      · intro h
        cases h
        exact ⟨List.forall_mem_nil _, rfl⟩
      · rintro ⟨_, rfl⟩
        rfl
  | cons field rest ih =>
      rw [List.foldlM_cons, bind_eq_ok, noted_cons, List.forall_mem_cons]
      constructor
      · rintro ⟨next, hnext, hrest⟩
        rcases (putNamed_eq_ok_iff hmembers).mp hnext with ⟨hfield, rfl⟩
        rcases ih.mp hrest with ⟨hothers, hdraft⟩
        exact ⟨⟨hfield, hothers⟩, hdraft⟩
      · rintro ⟨⟨hfield, hothers⟩, hdraft⟩
        exact ⟨_, (putNamed_eq_ok_iff hmembers).mpr ⟨hfield, rfl⟩, ih.mpr ⟨hothers, hdraft⟩⟩

theorem read_eq_ok_iff {part : Json} {start draft : MemberDraft} :
    (memberLayout name members).read start part = .ok draft ↔
      ((∃ fields, part = .object fields) ∨
        ∃ values, part = .array values ∧ values.length = 2) ∧
      (∀ field ∈ fieldsOf members part, IsOwnField members field) ∧
      draft = noted members (fieldsOf members part) start := by
  have hfold := @foldlM_putNamed_eq_ok_iff name members hmembers (fieldsOf members part) start draft
  constructor
  · intro h
    rcases Layout.read_eq_ok h with ⟨hform, hread⟩
    refine ⟨?_, hfold.mp hread⟩
    rcases hform with ⟨fields, hobject, _⟩ | harray
    · exact .inl ⟨fields, hobject⟩
    · exact .inr harray
  · rintro ⟨hform, hfields⟩
    have hread := hfold.mpr hfields
    rcases hform with ⟨fields, rfl⟩ | ⟨values, rfl, hlength⟩
    · exact hread
    · rw [Layout.read_array hlength]
      exact hread

theorem connectiveOf_eq_ok_iff {fields : List (String × Json)} {connective : Connective}
    (howned : ∀ field ∈ fields, IsOwnField members field) (steps : List Step) :
    connectiveOf steps (((last? "operator" fields).map Json.string?).getD none) =
        .ok connective ↔
      Joins (last? "operator" fields) connective := by
  cases hfound : last? "operator" fields with
  | none =>
      constructor
      · intro h
        cases h
        exact .absent
      · rintro ⟨⟩
        rfl
  | some json =>
      rcases (howned _ (mem_of_last? hfound)).null_or_string hmembers with rfl | ⟨text, rfl⟩
      · constructor
        · intro h
          cases h
          exact .null
        · rintro ⟨⟩
          rfl
      · constructor
        · intro h
          cases connectiveOf_some_eq_ok_iff.mp h
          exact .named connective
        · rintro ⟨⟩
          exact connectiveOf_some_eq_ok_iff.mpr rfl

theorem noted_members_eq_some_iff {fields : List (String × Json)} {items : List Json}
    (howned : ∀ field ∈ fields, IsOwnField members field) :
    (noted members fields ⟨none, none⟩).members = some items ↔
      last? members fields = some (.array items) := by
  unfold noted
  cases hfound : last? members fields with
  | none => simp
  | some json =>
      rcases (howned _ (mem_of_last? hfound)).exists_items hmembers with ⟨others, rfl⟩
      simp [itemsOf]

/-- What is read of a part with members is what it says itself. -/
theorem readMembers_eq_ok_iff {steps : List Step} {part : Json} {connective : Connective}
    {items : List Json} :
    readMembers (memberLayout name members) members steps part = .ok (connective, items) ↔
      Declares members part connective items := by
  have hread := @read_eq_ok_iff name members hmembers part ⟨none, none⟩
  constructor
  · intro h
    rcases bind_eq_ok.mp h with ⟨draft, hdraft, hmore⟩
    rcases hread.mp (readDraft_eq_ok.mp hdraft) with ⟨hform, howned, rfl⟩
    split at hmore
    · cases hmore
    · next others hothers =>
        rcases bind_eq_ok.mp hmore with ⟨joined, hjoined, heq⟩
        cases heq
        exact ⟨hform, howned, (connectiveOf_eq_ok_iff hmembers howned steps).mp hjoined,
          (noted_members_eq_some_iff hmembers howned).mp hothers⟩
  · rintro ⟨hform, howned, hjoined, hlisted⟩
    have hdraft := (@readDraft_eq_ok _ _ _ _ steps _).mpr (hread.mpr ⟨hform, howned, rfl⟩)
    have hitems := (noted_members_eq_some_iff hmembers howned).mpr hlisted
    have hconnective := (connectiveOf_eq_ok_iff hmembers howned steps).mpr hjoined
    apply bind_eq_ok.mpr
    refine ⟨_, hdraft, ?_⟩
    rw [hitems]
    exact bind_eq_ok.mpr ⟨connective, hconnective, rfl⟩

end Members

/-! ## Parts without their members -/

def emptied : Json → Json
  | .array _ => .array []
  | json => json

def bareField (members : String) (field : String × Json) : String × Json :=
  if field.1 = members then (members, emptied field.2) else field

/-- What a part says itself: its members are left out, and also how many there are. -/
def bare (members : String) : Json → Json
  | .object fields => .object (fields.map (bareField members))
  | .array values => .array (values.modify 1 emptied)
  | json => json

def MemberDraft.bare (draft : MemberDraft) : MemberDraft :=
  { draft with members := draft.members.map fun _ => [] }

section Members

variable {name members : String}

theorem readSequence_emptied (json : Json) :
    (emptied json).readSequence = (fun _ => []) <$> json.readSequence := by
  cases json <;> rfl

theorem zip_modify (hmembers : members ≠ "operator") (values : List Json) :
    ["operator", members].zip (values.modify 1 emptied) =
      (["operator", members].zip values).map (bareField members) := by
  cases values with
  | nil => rfl
  | cons first rest =>
      cases rest with
      | nil => simp [bareField, hmembers.symm]
      | cons second others => simp [bareField, hmembers.symm]

theorem putNamed_bareField (hmembers : members ≠ "operator") (draft : MemberDraft)
    (field : String × Json) :
    (memberLayout name members).putNamed draft.bare (bareField members field) =
      MemberDraft.bare <$> (memberLayout name members).putNamed draft field := by
  obtain ⟨key, json⟩ := field
  by_cases hoperator : key = "operator"
  · subst hoperator
    have hfield : bareField members ("operator", json) = ("operator", json) :=
      if_neg hmembers.symm
    rw [hfield, putNamed_operator, putNamed_operator]
    cases json.readText <;> rfl
  · by_cases hkey : key = members
    · subst hkey
      have hfield : bareField key (key, json) = (key, emptied json) := if_pos rfl
      rw [hfield, putNamed_members hmembers, putNamed_members hmembers, readSequence_emptied]
      cases json.readSequence <;> rfl
    · have hfield : bareField members (key, json) = (key, json) := if_neg hkey
      simp [hfield, Layout.putNamed, memberLayout, hoperator, hkey]

theorem read_bare (hmembers : members ≠ "operator") (part : Json) :
    (memberLayout name members).read ⟨none, none⟩ (bare members part) =
      MemberDraft.bare <$> (memberLayout name members).read ⟨none, none⟩ part := by
  have hfold : ∀ fields : List (String × Json),
      (fields.map (bareField members)).foldlM (memberLayout name members).putNamed ⟨none, none⟩ =
        MemberDraft.bare <$> fields.foldlM (memberLayout name members).putNamed ⟨none, none⟩ :=
    fun fields => foldlM_map_comm (putNamed_bareField hmembers) fields ⟨none, none⟩
  cases part with
  | object fields => exact hfold fields
  | array values =>
      have hzip : ((memberLayout name members).fields.zip (values.modify 1 emptied)).foldlM
          (memberLayout name members).putNamed ⟨none, none⟩ =
            MemberDraft.bare <$> ((memberLayout name members).fields.zip values).foldlM
              (memberLayout name members).putNamed ⟨none, none⟩ := by
        rw [← hfold]
        exact congrArg (List.foldlM _ _) (zip_modify hmembers values)
      simp only [bare, Layout.read, List.length_modify]
      rw [hzip]
      cases ((memberLayout name members).fields.zip values).foldlM
          (memberLayout name members).putNamed ⟨none, none⟩ with
      | error m => rfl
      | ok draft =>
          show (if _ then _ else if _ then _ else _) =
            MemberDraft.bare <$> (if _ then _ else if _ then _ else _)
          split
          · rfl
          · split
            · rfl
            · rfl
  | _ => rfl

/-- What is found in a part does not depend on its members, apart from these themselves. -/
theorem readMembers_bare (hmembers : members ≠ "operator") (steps : List Step) (part : Json) :
    readMembers (memberLayout name members) members steps (bare members part) =
      (fun found => (found.1, [])) <$>
        readMembers (memberLayout name members) members steps part := by
  unfold readMembers readDraft
  rw [read_bare hmembers]
  cases (memberLayout name members).read ⟨none, none⟩ part with
  | error m => rfl
  | ok draft =>
      obtain ⟨operator, found⟩ := draft
      cases found with
      | none => rfl
      | some items =>
          show (connectiveOf steps operator >>= fun connective => pure (connective, [])) =
            (fun found => (found.1, [])) <$>
              (connectiveOf steps operator >>= fun connective => pure (connective, items))
          cases connectiveOf steps operator <;> rfl

end Members

end Document

end RecordFilter
