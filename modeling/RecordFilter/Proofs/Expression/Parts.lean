import RecordFilter.Expression.Reader
import RecordFilter.Proofs.Traversal

/-!
# The parts of a document

The document of a group lists filters and the document of a filter lists criteria.  What is
accepted as an expression has parts that the readers of their levels accept, one by one.

The root is always an object.  The other parts, and whatever defines a criterion in full, may
also be arrays of all fields of their level in the documented order, which are read like
objects with these fields.

The main statement says this of all documents that are accepted, and so when the parts of one
are the objects they are documented to be.
-/

namespace RecordFilter

/-! ## Layouts -/

namespace Layout

variable {α : Type} {layout : Layout α} {start draft : α}

def given (names : List String) : Json → List (String × Json)
  | .object fields => fields
  | .array items => names.zip items
  | _ => []

theorem putNamed_eq_ok {field : String × Json} (h : layout.putNamed start field = .ok draft) :
    field.1 ∈ layout.fields ∧ layout.put field.1 field.2 start = .ok draft := by
  unfold putNamed at h
  split at h
  · next hknown => exact ⟨List.contains_iff_mem.mp hknown, h⟩
  · cases h

theorem mem_of_foldlM_putNamed {fields : List (String × Json)}
    (h : fields.foldlM layout.putNamed start = .ok draft) :
    ∀ field ∈ fields, field.1 ∈ layout.fields := by
  induction fields generalizing start with
  | nil => exact List.forall_mem_nil _
  | cons field rest ih =>
      rw [List.foldlM_cons] at h
      rcases bind_eq_ok.mp h with ⟨next, hfield, hrest⟩
      exact List.forall_mem_cons.mpr ⟨(putNamed_eq_ok hfield).1, ih hrest⟩

/-- What is read is an object with fields of the layout, or an array of all of them. -/
theorem read_eq_ok {json : Json} (h : layout.read start json = .ok draft) :
    ((∃ fields, json = .object fields ∧ ∀ field ∈ fields, field.1 ∈ layout.fields) ∨
      ∃ items, json = .array items ∧ items.length = layout.fields.length) ∧
    (given layout.fields json).foldlM layout.putNamed start = .ok draft := by
  unfold read at h
  split at h
  · next fields => exact ⟨.inl ⟨fields, rfl, mem_of_foldlM_putNamed h⟩, h⟩
  · next items =>
      rcases bind_eq_ok.mp h with ⟨found, hfound, hlength⟩
      split at hlength
      · cases hlength
      · split at hlength
        · cases hlength
        · cases hlength
          exact ⟨.inr ⟨items, rfl, by omega⟩, hfound⟩
  · cases h

theorem read_array {items : List Json} (h : items.length = layout.fields.length) :
    layout.read start (.array items) = layout.read start (.object (layout.fields.zip items)) := by
  have hshort : ¬ items.length < layout.fields.length := by omega
  have hlong : ¬ layout.fields.length < items.length := by omega
  simp only [read, if_neg hshort, if_neg hlong, bind_pure]

end Layout

namespace Document

variable {Hook : Type}

/-! ## Levels -/

def documentedFields : Level → List String
  | .group => ["operator", "filters"]
  | .filter => ["operator", "criteria"]
  | .criterion => ["type", "operator", "matchValue", "valuePath", "defaultValue", "normalize",
      "matchInArray", "heavy", "alias"]

def levelOf : Json → Level
  | .object fields =>
      if Keyed.contains "filters" fields then .group
      else if Keyed.contains "criteria" fields then .filter
      else .criterion
  | _ => .criterion

def IsObjectOf (level : Level) (part : Json) : Prop :=
  ∃ fields, part = .object fields ∧ ∀ field ∈ fields, field.1 ∈ documentedFields level

def IsArrayOf (level : Level) (part : Json) : Prop :=
  ∃ items, part = .array items ∧ items.length = (documentedFields level).length

/-- The items are those of the last field with a name that is given. -/
def Lists (level : Level) (part : Json) (name : String) (items : List Json) : Prop :=
  ∃ before after,
    Layout.given (documentedFields level) part = before ++ (name, .array items) :: after ∧
      ∀ field ∈ after, field.1 ≠ name

/-- The parts of a document with their levels. -/
inductive IsPart (json : Json) : Level → Json → Prop where
  | root : IsPart json (levelOf json) json
  | filter {group filter : Json} {filters : List Json} : IsPart json .group group →
      Lists .group group "filters" filters → filter ∈ filters → IsPart json .filter filter
  | criterion {filter criterion : Json} {criteria : List Json} : IsPart json .filter filter →
      Lists .filter filter "criteria" criteria → criterion ∈ criteria →
      IsPart json .criterion criterion

variable (Hook) in
def Accepts (level : Level) (part : Json) : Prop :=
  match level with
  | .group => ∃ steps, ∃ group : FilterGroup Hook, readGroup steps part = .ok group
  | .filter => ∃ steps, ∃ filter : Filter Hook, readFilter steps part = .ok filter
  | .criterion => ∃ steps, ∃ node : Node Hook, readNode steps part = .ok node

/-! ## Members -/

theorem readDraft_eq_ok {α : Type} {layout : Layout α} {start draft : α} {steps : List Step}
    {json : Json} :
    readDraft layout start steps json = .ok draft ↔ layout.read start json = .ok draft := by
  unfold readDraft
  cases layout.read start json with
  | error m => exact iff_of_false nofun nofun
  | ok found => simp [Except.mapError]

section Members

variable {name members : String}

theorem members_of_foldlM {fields : List (String × Json)} {start draft : MemberDraft}
    (h : fields.foldlM (memberLayout name members).putNamed start = .ok draft)
    (hother : ∀ field ∈ fields, field.1 ≠ members) : draft.members = start.members := by
  induction fields generalizing start with
  | nil =>
      cases h
      rfl
  | cons field rest ih =>
      rw [List.foldlM_cons] at h
      rcases bind_eq_ok.mp h with ⟨next, hfield, hrest⟩
      rcases List.forall_mem_cons.mp hother with ⟨hne, hother⟩
      rcases Layout.putNamed_eq_ok hfield with ⟨hknown, hput⟩
      have hoperator : field.1 = "operator" := by
        simpa [memberLayout, hne] using hknown
      have hnext : next.members = start.members := by
        simp only [memberLayout, hoperator] at hput
        rcases bind_eq_ok.mp hput with ⟨text, _, heq⟩
        cases heq
        rfl
      rw [ih hrest hother, hnext]

variable (hmembers : members ≠ "operator")
include hmembers

theorem members_of_lists {level : Level} {json : Json} {start draft : MemberDraft}
    {items : List Json} (hfields : documentedFields level = ["operator", members])
    (h : (memberLayout name members).read start json = .ok draft)
    (hlists : Lists level json members items) : draft.members = some items := by
  have hfold := (Layout.read_eq_ok h).2
  rcases hlists with ⟨before, after, hgiven, hafter⟩
  rw [hfields] at hgiven
  have hlayout : (memberLayout name members).fields = ["operator", members] := rfl
  rw [hlayout, hgiven, List.foldlM_append] at hfold
  rcases bind_eq_ok.mp hfold with ⟨middle, _, hrest⟩
  rw [List.foldlM_cons] at hrest
  rcases bind_eq_ok.mp hrest with ⟨next, hput, hlast⟩
  rw [members_of_foldlM hlast hafter]
  have hnext := (Layout.putNamed_eq_ok hput).2
  simp only [memberLayout, beq_iff_eq, hmembers] at hnext
  cases hnext
  rfl

theorem exists_read_of_lists {α : Type} {level : Level} {json : Json} {steps : List Step}
    {connective : Connective} {found items : List Json} {xs : List α}
    {read : List Step → Json → Except FilterError α} {step : Nat → Step}
    (hfields : documentedFields level = ["operator", members])
    (h : readMembers (memberLayout name members) members steps json = .ok (connective, found))
    (hall : readAll read step steps found = .ok xs) (hlists : Lists level json members items) :
    ∀ item ∈ items, ∃ steps x, read steps item = .ok x := by
  have hfound : found = items := by
    rcases bind_eq_ok.mp h with ⟨draft, hdraft, hmore⟩
    have hitems := members_of_lists hmembers hfields (readDraft_eq_ok.mp hdraft) hlists
    simp only [hitems] at hmore
    rcases bind_eq_ok.mp hmore with ⟨joined, _, heq⟩
    cases heq
    rfl
  intro item hitem
  rw [← hfound] at hitem
  rcases List.mem_iff_getElem?.mp hitem with ⟨position, hposition⟩
  have hmem := List.mk_mem_zipIdx_iff_getElem?.mpr hposition
  rcases exists_of_mapM_eq_ok hall hmem with ⟨x, _, hx⟩
  exact ⟨_, x, hx⟩

end Members

/-! ## Acceptance -/

theorem Accepts.filter {group filter : Json} {filters : List Json} (h : Accepts Hook .group group)
    (hlists : Lists .group group "filters" filters) (hmem : filter ∈ filters) :
    Accepts Hook .filter filter := by
  rcases h with ⟨steps, read, hread⟩
  rcases bind_eq_ok.mp hread with ⟨⟨connective, found⟩, hmembers, hmore⟩
  rcases bind_eq_ok.mp hmore with ⟨filters', hall, _⟩
  exact exists_read_of_lists (by decide) rfl hmembers hall hlists filter hmem

theorem Accepts.criterion {filter criterion : Json} {criteria : List Json}
    (h : Accepts Hook .filter filter) (hlists : Lists .filter filter "criteria" criteria)
    (hmem : criterion ∈ criteria) : Accepts Hook .criterion criterion := by
  rcases h with ⟨steps, read, hread⟩
  rcases bind_eq_ok.mp hread with ⟨⟨connective, found⟩, hmembers, hmore⟩
  rcases bind_eq_ok.mp hmore with ⟨nodes, hall, _⟩
  exact exists_read_of_lists (by decide) rfl hmembers hall hlists criterion hmem

theorem isGiven_of_readMembers {level : Level} {name members : String} {steps : List Step}
    {json : Json} {found : Connective × List Json}
    (hfields : documentedFields level = ["operator", members])
    (h : readMembers (memberLayout name members) members steps json = .ok found) :
    IsObjectOf level json ∨ IsArrayOf level json := by
  rcases bind_eq_ok.mp h with ⟨draft, hdraft, _⟩
  have hgiven := (Layout.read_eq_ok (readDraft_eq_ok.mp hdraft)).1
  unfold IsObjectOf IsArrayOf
  rw [hfields]
  exact hgiven

theorem Accepts.isGiven {level : Level} {part : Json} (h : Accepts Hook level part) :
    IsObjectOf level part ∨ IsArrayOf level part := by
  cases level with
  | criterion =>
      rcases h with ⟨steps, node, hread⟩
      rcases bind_eq_ok.mp hread with ⟨draft, hdraft, _⟩
      exact (Layout.read_eq_ok (readDraft_eq_ok.mp hdraft)).1
  | filter =>
      rcases h with ⟨steps, filter, hread⟩
      rcases bind_eq_ok.mp hread with ⟨found, hmembers, _⟩
      exact isGiven_of_readMembers rfl hmembers
  | group =>
      rcases h with ⟨steps, group, hread⟩
      rcases bind_eq_ok.mp hread with ⟨found, hmembers, _⟩
      exact isGiven_of_readMembers rfl hmembers

/-- All parts of a document are accepted if the document itself is. -/
theorem IsPart.accepts {json part : Json} {level : Level} (h : IsPart json level part)
    (hroot : Accepts Hook (levelOf json) json) : Accepts Hook level part := by
  induction h with
  | root => exact hroot
  | filter _ hlists hmem ih => exact ih.filter hlists hmem
  | criterion _ hlists hmem ih => exact ih.criterion hlists hmem

theorem accepts_of_ofJson {json : Json} {expression : Expression Hook}
    (h : Expression.ofJson json = .ok expression) :
    (∃ fields, json = .object fields) ∧ Accepts Hook (levelOf json) json := by
  cases json with
  | object fields =>
      refine ⟨⟨fields, rfl⟩, ?_⟩
      simp only [Expression.ofJson] at h
      simp only [levelOf]
      split at h
      · next hfilters =>
          rw [if_pos hfilters]
          rcases map_eq_ok.mp h with ⟨group, hread, _⟩
          exact ⟨[], group, hread⟩
      · next hfilters =>
          rw [if_neg hfilters]
          split at h
          · next hcriteria =>
              rw [if_pos hcriteria]
              rcases map_eq_ok.mp h with ⟨filter, hread, _⟩
              exact ⟨[], filter, hread⟩
          · next hcriteria =>
              rw [if_neg hcriteria]
              rcases map_eq_ok.mp h with ⟨node, hread, _⟩
              exact ⟨[], node, hread⟩
  | _ => cases h

theorem accepts_of_criterion_ofJson {json : Json} {criterion : Criterion Hook}
    (h : Criterion.ofJson json = .ok criterion) : Accepts Hook .criterion json := by
  rcases bind_eq_ok.mp h with ⟨node, hnode, _⟩
  exact ⟨[], node, hnode⟩

/-- An array of all fields is read as if each item had the name of its field. -/
theorem accepts_array_iff {level : Level} {items : List Json}
    (h : items.length = (documentedFields level).length) :
    Accepts Hook level (.array items) ↔
      Accepts Hook level (.object ((documentedFields level).zip items)) := by
  cases level with
  | criterion =>
      have hread := fun start => @Layout.read_array _ criterionLayout start _ h
      simp only [Accepts, readNode, readDraft, hread]
      exact Iff.rfl
  | filter =>
      have hread := fun start => @Layout.read_array _ filterLayout start _ h
      simp only [Accepts, readFilter, readMembers, readDraft, hread]
      exact Iff.rfl
  | group =>
      have hread := fun start => @Layout.read_array _ groupLayout start _ h
      simp only [Accepts, readGroup, readMembers, readDraft, hread]
      exact Iff.rfl

theorem not_isObjectOf_array (level : Level) (items : List Json) :
    ¬ IsObjectOf level (.array items) := by
  rintro ⟨_, ⟨⟩, _⟩

/--
Every part of a document that is accepted has been accepted by the reader of its level: it is an
object with documented fields only or, unless it is the root, an array of all these fields in
their order.  So all parts are such objects exactly if none is an array.  What defines a criterion
in full has one of the two forms as well, and an array of all fields is accepted if and only if
its items are when each has the name of its field.
-/
theorem accepted_parts (json : Json) :
    (∀ expression : Expression Hook, Expression.ofJson json = .ok expression →
      IsObjectOf (levelOf json) json ∧
      (∀ level part, IsPart json level part →
        Accepts Hook level part ∧ (IsObjectOf level part ∨ IsArrayOf level part)) ∧
      ((∀ level part, IsPart json level part → IsObjectOf level part) ↔
        ∀ level part, IsPart json level part → ∀ items, part ≠ .array items)) ∧
    (∀ criterion : Criterion Hook, Criterion.ofJson json = .ok criterion →
      IsObjectOf .criterion json ∨ IsArrayOf .criterion json) ∧
    ∀ (level : Level) (items : List Json), items.length = (documentedFields level).length →
      (Accepts Hook level (.array items) ↔
        Accepts Hook level (.object ((documentedFields level).zip items))) := by
  refine ⟨?_, ?_, fun level items => accepts_array_iff⟩
  · intro expression h
    rcases accepts_of_ofJson h with ⟨hobject, hroot⟩
    have hparts : ∀ level part, IsPart json level part →
        Accepts Hook level part ∧ (IsObjectOf level part ∨ IsArrayOf level part) := by
      intro level part hpart
      have haccepts := hpart.accepts hroot
      exact ⟨haccepts, haccepts.isGiven⟩
    have hobjects : ∀ level part, IsPart json level part → (∀ items, part ≠ .array items) →
        IsObjectOf level part := by
      intro level part hpart hnone
      cases (hparts level part hpart).2 with
      | inl hobject => exact hobject
      | inr harray =>
          rcases harray with ⟨items, heq, _⟩
          exact absurd heq (hnone items)
    refine ⟨?_, hparts, ?_⟩
    · apply hobjects _ _ .root
      intro items heq
      rcases hobject with ⟨fields, hfields⟩
      rw [hfields] at heq
      cases heq
    · constructor
      · rintro hall level part hpart items rfl
        exact not_isObjectOf_array level items (hall level _ hpart)
      · intro hnone level part hpart
        exact hobjects level part hpart (hnone level part hpart)
  · intro criterion h
    exact (accepts_of_criterion_ofJson h).isGiven

theorem accepted_parts_of_group :
    let reference : Json := .object [("alias", .string "adults")]
    let filter : Json := .object [("criteria", .array [reference])]
    let json : Json := .object [("filters", .array [filter])]
    let items : List Json := [.string "OR", .array [reference]]
    let named : Json := .object [("operator", .string "OR"), ("criteria", .array [reference])]
    let definition : Json := .object [("operator", .string "IS-NIL"), ("type", .string "BOOLEAN")]
    (∃ expression : Expression Empty, Expression.ofJson json = .ok expression) ∧
      IsPart json .criterion reference ∧ Accepts Empty .criterion reference ∧
      (∃ criterion : Criterion Empty, Criterion.ofJson definition = .ok criterion) ∧
      (IsObjectOf .criterion definition ∨ IsArrayOf .criterion definition) ∧
      items.length = (documentedFields .filter).length ∧
      (Accepts Empty .filter (.array items) ↔ Accepts Empty .filter named) := by
  intro reference filter json items named definition
  have hjson : ∃ expression : Expression Empty, Expression.ofJson json = .ok expression := ⟨_, rfl⟩
  have hdefinition : ∃ criterion : Criterion Empty, Criterion.ofJson definition = .ok criterion :=
    ⟨_, rfl⟩
  have hfilter : IsPart json .filter filter :=
    .filter .root ⟨[], [], rfl, List.forall_mem_nil _⟩ List.mem_cons_self
  have hreference : IsPart json .criterion reference :=
    .criterion hfilter ⟨[], [], rfl, List.forall_mem_nil _⟩ List.mem_cons_self
  refine ⟨hjson, hreference, ?_, hdefinition, ?_, rfl, ?_⟩
  · rcases hjson with ⟨expression, hread⟩
    exact (((accepted_parts json).1 expression hread).2.1 _ _ hreference).1
  · rcases hdefinition with ⟨criterion, hread⟩
    exact (accepted_parts definition).2.1 criterion hread
  · exact (@accepted_parts Empty json).2.2 .filter items rfl

/-- A filter inside a group and the definition of a criterion, both accepted as arrays. -/
theorem array_parts_accepted :
    let filter : Json := .array [.null, .array []]
    let json : Json := .object [("filters", .array [filter])]
    let definition : Json :=
      .array (.string "BOOLEAN" :: .string "IS-NIL" :: List.replicate 7 .null)
    (∃ expression : Expression Empty, Expression.ofJson json = .ok expression) ∧
      IsPart json .filter filter ∧ ¬ IsObjectOf .filter filter ∧
      (∃ criterion : Criterion Empty, Criterion.ofJson definition = .ok criterion) ∧
      ¬ IsObjectOf .criterion definition := by
  intro filter json definition
  have hfilter : IsPart json .filter filter :=
    .filter .root ⟨[], [], rfl, List.forall_mem_nil _⟩ List.mem_cons_self
  exact ⟨⟨_, rfl⟩, hfilter, not_isObjectOf_array .filter _, ⟨_, rfl⟩,
    not_isObjectOf_array .criterion _⟩

end Document

end RecordFilter
