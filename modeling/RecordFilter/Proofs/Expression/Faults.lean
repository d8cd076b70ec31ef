import RecordFilter.Proofs.Expression.Declared
import RecordFilter.Proofs.Operator.Names

/-!
# The first fault of a document

A document is read depth first.  What a group says itself comes before its filters, and what a
filter says itself before its criteria.  The passages of a document are these pieces in this
order, each without the members that have passages of their own.

The main statement says that an expression is read if no passage has a fault, that it has the
structure of the document then, and that the first fault is reported otherwise.
-/

namespace RecordFilter

namespace Document

variable {Hook : Type}

/-! ## Passages -/

/-- A piece of a document: its level, where it stands, and what it says itself. -/
structure Passage where
  level : Level
  steps : List Step
  own : Json

namespace Passage

variable (Hook) in
def IsValid (passage : Passage) : Prop :=
  match passage.level with
  | .group => ∃ connective items, Declares "filters" passage.own connective items
  | .filter => ∃ connective items, Declares "criteria" passage.own connective items
  | .criterion => ∃ node : Node Hook, readNode [] passage.own = .ok node

variable (Hook) in
/-- What the reader of its level reports of a passage. -/
def fault? (passage : Passage) : Option FilterError :=
  match passage.level with
  | .group => failure? (readMembers groupLayout "filters" passage.steps passage.own)
  | .filter => failure? (readMembers filterLayout "criteria" passage.steps passage.own)
  | .criterion => failure? (readNode passage.steps passage.own : Except _ (Node Hook))

end Passage

def passagesOfFilter (steps : List Step) (part : Json) : List Passage :=
  ⟨.filter, steps, bare "criteria" part⟩ ::
    (membersOf "criteria" part).zipIdx.map fun (criterion, position) =>
      ⟨.criterion, steps ++ [.criterion position], criterion⟩

def passagesOfGroup (steps : List Step) (part : Json) : List Passage :=
  ⟨.group, steps, bare "filters" part⟩ ::
    (membersOf "filters" part).zipIdx.flatMap fun (filter, position) =>
      passagesOfFilter (steps ++ [.filter position]) filter

def passages (json : Json) : List Passage :=
  match levelOf json with
  | .group => passagesOfGroup [] json
  | .filter => passagesOfFilter [] json
  | .criterion => [⟨.criterion, [], json⟩]

/-! ## Parts with members -/

def readJoined {α β : Type} (make : Connective → List α → β) (name members : String)
    (read : List Step → Json → Except FilterError α) (step : Nat → Step) (steps : List Step)
    (json : Json) : Except FilterError β := do
  let found ← readMembers (memberLayout name members) members steps json
  return make found.1 (← readAll read step steps found.2)

theorem readFilter_eq (steps : List Step) (json : Json) :
    (readFilter steps json : Except _ (Filter Hook)) =
      readJoined (fun connective nodes => ⟨connective, nodes⟩) "struct RawFilter" "criteria"
        readNode .criterion steps json :=
  rfl

theorem readGroup_eq (steps : List Step) (json : Json) :
    (readGroup steps json : Except _ (FilterGroup Hook)) =
      readJoined (fun connective filters => ⟨connective, filters⟩) "struct RawGroup" "filters"
        readFilter .filter steps json :=
  rfl

section Joined

variable {α β : Type} {make : Connective → List α → β} {name members : String}
  {read : List Step → Json → Except FilterError α} {step : Nat → Step} {steps : List Step}
  {json : Json}

theorem readAll_eq_ok_iff {R : Json → α → Prop}
    (hread : ∀ steps item x, read steps item = .ok x ↔ R item x) {items : List Json}
    {xs : List α} : readAll read step steps items = .ok xs ↔ List.Forall₂ R items xs := by
  have hitems : List.Forall₂ R (items.zipIdx.map Prod.fst) xs ↔
      List.Forall₂ (fun entry x => R entry.1 x) items.zipIdx xs := List.forall₂_map_left_iff
  rw [List.zipIdx_map_fst] at hitems
  rw [readAll, mapM_eq_ok_iff, hitems]
  simp only [hread]

/-- A part is read if it is valid itself and each of its members is read. -/
theorem readJoined_eq_ok_iff (hmembers : members ≠ "operator") {R : Json → α → Prop}
    (hread : ∀ steps item x, read steps item = .ok x ↔ R item x) {y : β} :
    readJoined make name members read step steps json = .ok y ↔
      ∃ connective items xs, Declares members json connective items ∧
        List.Forall₂ R items xs ∧ make connective xs = y := by
  constructor
  · intro h
    rcases bind_eq_ok.mp h with ⟨⟨connective, items⟩, hfound, hmore⟩
    rcases bind_eq_ok.mp hmore with ⟨xs, hxs, heq⟩
    exact ⟨connective, items, xs, (readMembers_eq_ok_iff hmembers).mp hfound,
      (readAll_eq_ok_iff hread).mp hxs, Except.ok.inj heq⟩
  · rintro ⟨connective, items, xs, hdeclares, hxs, rfl⟩
    apply bind_eq_ok.mpr
    refine ⟨(connective, items), (readMembers_eq_ok_iff hmembers).mpr hdeclares, ?_⟩
    exact bind_eq_ok.mpr ⟨xs, (readAll_eq_ok_iff hread).mpr hxs, rfl⟩

theorem failure?_readJoined (hmembers : members ≠ "operator") :
    failure? (readJoined make name members read step steps json) =
      (failure? (readMembers (memberLayout name members) members steps
        (bare members json))).or
      ((membersOf members json).zipIdx.findSome? fun entry =>
        failure? (read (steps ++ [step entry.2]) entry.1)) := by
  rw [readMembers_bare hmembers, failure?_map]
  unfold readJoined
  cases hfound : readMembers (memberLayout name members) members steps json with
  | error e => rfl
  | ok found =>
      have hitems : membersOf members json = found.2 :=
        ((readMembers_eq_ok_iff hmembers).mp hfound).membersOf_eq
      have hall : failure? (readAll read step steps found.2) = found.2.zipIdx.findSome?
          fun entry => failure? (read (steps ++ [step entry.2]) entry.1) := failure?_mapM _
      rw [hitems, ← hall]
      show failure? (readAll read step steps found.2 >>= fun xs => pure (make found.1 xs)) = _
      cases readAll read step steps found.2 <;> rfl

end Joined

/-! ## Criteria by themselves -/

theorem typeOf_eq_ok_iff {steps : List Step} {name : Option String}
    {type : Option CriterionType} :
    typeOf steps name = .ok type ↔ typeOf [] name = .ok type := by
  unfold typeOf
  split
  · rfl
  · split <;> simp

theorem readNode_eq_ok_iff {steps : List Step} {json : Json} {node : Node Hook} :
    readNode steps json = .ok node ↔ readNode [] json = .ok node := by
  unfold readNode
  simp only [bind_eq_ok, readDraft_eq_ok, @typeOf_eq_ok_iff steps]
  apply exists_congr
  intro draft
  apply and_congr_right
  intro _
  apply exists_congr
  intro type
  apply and_congr_right
  intro _
  split
  · rfl
  · unfold referenceOf
    split
    · exact iff_of_false nofun nofun
    · rfl
  · exact iff_of_false nofun nofun
  · exact iff_of_false nofun nofun

/-! ## Structure -/

def DescribesFilter (json : Json) (filter : Filter Hook) : Prop :=
  ∃ criteria, Declares "criteria" json filter.connective criteria ∧
    List.Forall₂ (fun criterion node => readNode [] criterion = .ok node) criteria filter.nodes

def DescribesGroup (json : Json) (group : FilterGroup Hook) : Prop :=
  ∃ filters, Declares "filters" json group.connective filters ∧
    List.Forall₂ DescribesFilter filters group.filters

/-- An expression has the level and the structure of a document. -/
inductive Describes (json : Json) : Expression Hook → Prop where
  | group {group : FilterGroup Hook} : levelOf json = .group → DescribesGroup json group →
      Describes json (.group group)
  | filter {filter : Filter Hook} : levelOf json = .filter → DescribesFilter json filter →
      Describes json (.filter filter)
  | node {node : Node Hook} : levelOf json = .criterion → readNode [] json = .ok node →
      Describes json (.node node)

theorem readFilter_eq_ok_iff {steps : List Step} {json : Json} {filter : Filter Hook} :
    readFilter steps json = .ok filter ↔ DescribesFilter json filter := by
  have hread : ∀ steps json (node : Node Hook),
      readNode steps json = .ok node ↔ readNode [] json = .ok node :=
    fun _ _ _ => readNode_eq_ok_iff
  rw [readFilter_eq, readJoined_eq_ok_iff (by decide) hread]
  constructor
  · rintro ⟨connective, criteria, nodes, hdeclares, hnodes, rfl⟩
    exact ⟨criteria, hdeclares, hnodes⟩
  · rintro ⟨criteria, hdeclares, hnodes⟩
    exact ⟨_, criteria, _, hdeclares, hnodes, rfl⟩

theorem readGroup_eq_ok_iff {steps : List Step} {json : Json} {group : FilterGroup Hook} :
    readGroup steps json = .ok group ↔ DescribesGroup json group := by
  have hread : ∀ steps json (filter : Filter Hook),
      readFilter steps json = .ok filter ↔ DescribesFilter json filter :=
    fun _ _ _ => readFilter_eq_ok_iff
  rw [readGroup_eq, readJoined_eq_ok_iff (by decide) hread]
  constructor
  · rintro ⟨connective, filters, found, hdeclares, hfound, rfl⟩
    exact ⟨filters, hdeclares, hfound⟩
  · rintro ⟨filters, hdeclares, hfound⟩
    exact ⟨_, filters, _, hdeclares, hfound, rfl⟩

theorem ofJson_object (fields : List (String × Json)) :
    (Expression.ofJson (.object fields) : Except _ (Expression Hook)) =
      match levelOf (.object fields) with
      | .group => .group <$> readGroup [] (.object fields)
      | .filter => .filter <$> readFilter [] (.object fields)
      | .criterion => .node <$> readNode [] (.object fields) := by
  simp only [Expression.ofJson, levelOf]
  split
  · rfl
  · split
    · rfl
    · rfl

theorem ofJson_eq_ok_iff {fields : List (String × Json)} {expression : Expression Hook} :
    Expression.ofJson (.object fields) = .ok expression ↔
      Describes (.object fields) expression := by
  rw [ofJson_object]
  constructor
  · intro h
    split at h
    · next hlevel =>
        rcases map_eq_ok.mp h with ⟨group, hgroup, rfl⟩
        exact .group hlevel (readGroup_eq_ok_iff.mp hgroup)
    · next hlevel =>
        rcases map_eq_ok.mp h with ⟨filter, hfilter, rfl⟩
        exact .filter hlevel (readFilter_eq_ok_iff.mp hfilter)
    · next hlevel =>
        rcases map_eq_ok.mp h with ⟨node, hnode, rfl⟩
        exact .node hlevel hnode
  · intro h
    cases h with
    | group hlevel hgroup =>
        rw [hlevel]
        exact map_eq_ok.mpr ⟨_, readGroup_eq_ok_iff.mpr hgroup, rfl⟩
    | filter hlevel hfilter =>
        rw [hlevel]
        exact map_eq_ok.mpr ⟨_, readFilter_eq_ok_iff.mpr hfilter, rfl⟩
    | node hlevel hnode =>
        rw [hlevel]
        exact map_eq_ok.mpr ⟨_, hnode, rfl⟩

/-! ## The first fault -/

theorem Passage.fault?_eq_none_iff {passage : Passage} :
    passage.fault? Hook = none ↔ passage.IsValid Hook := by
  obtain ⟨level, steps, own⟩ := passage
  cases level with
  | criterion =>
      show failure? (readNode steps own : Except _ (Node Hook)) = none ↔ _
      rw [failure?_eq_none_iff]
      exact exists_congr fun node => readNode_eq_ok_iff
  | filter =>
      show failure? (readMembers filterLayout "criteria" steps own) = none ↔ _
      rw [failure?_eq_none_iff, Prod.exists]
      exact exists_congr fun _ => exists_congr fun _ => readMembers_eq_ok_iff (by decide)
  | group =>
      show failure? (readMembers groupLayout "filters" steps own) = none ↔ _
      rw [failure?_eq_none_iff, Prod.exists]
      exact exists_congr fun _ => exists_congr fun _ => readMembers_eq_ok_iff (by decide)

theorem failure?_readFilter (steps : List Step) (json : Json) :
    failure? (readFilter steps json : Except _ (Filter Hook)) =
      (passagesOfFilter steps json).findSome? (Passage.fault? Hook) := by
  rw [readFilter_eq, failure?_readJoined (by decide), passagesOfFilter, findSome?_cons_eq_or,
    List.findSome?_map]
  rfl

theorem failure?_readGroup (steps : List Step) (json : Json) :
    failure? (readGroup steps json : Except _ (FilterGroup Hook)) =
      (passagesOfGroup steps json).findSome? (Passage.fault? Hook) := by
  rw [readGroup_eq, failure?_readJoined (by decide), passagesOfGroup, findSome?_cons_eq_or,
    findSome?_flatMap]
  simp only [failure?_readFilter]
  rfl

/-- Reading an expression fails as its first passage does that has a fault. -/
theorem failure?_ofJson (fields : List (String × Json)) :
    failure? (Expression.ofJson (.object fields) : Except _ (Expression Hook)) =
      (passages (.object fields)).findSome? (Passage.fault? Hook) := by
  rw [ofJson_object, passages]
  split
  · rw [failure?_map, failure?_readGroup]
  · rw [failure?_map, failure?_readFilter]
  · rw [failure?_map, List.findSome?_singleton]
    rfl

/-! ## Positions -/

inductive StandsAt (json : Json) : Passage → String → Prop where
  | group : levelOf json = .group → StandsAt json ⟨.group, [], bare "filters" json⟩ "$"
  | filterOfGroup {i : Nat} {filter : Json} : levelOf json = .group →
      (membersOf "filters" json)[i]? = some filter →
      StandsAt json ⟨.filter, [.filter i], bare "criteria" filter⟩
        ("$.filters[" ++ toString i ++ "]")
  | criterionOfGroup {i j : Nat} {filter criterion : Json} : levelOf json = .group →
      (membersOf "filters" json)[i]? = some filter →
      (membersOf "criteria" filter)[j]? = some criterion →
      StandsAt json ⟨.criterion, [.filter i, .criterion j], criterion⟩
        ("$.filters[" ++ toString i ++ "].criteria[" ++ toString j ++ "]")
  | filter : levelOf json = .filter → StandsAt json ⟨.filter, [], bare "criteria" json⟩ "$"
  | criterionOfFilter {j : Nat} {criterion : Json} : levelOf json = .filter →
      (membersOf "criteria" json)[j]? = some criterion →
      StandsAt json ⟨.criterion, [.criterion j], criterion⟩
        ("$.criteria[" ++ toString j ++ "]")
  | criterion : levelOf json = .criterion → StandsAt json ⟨.criterion, [], json⟩ "$"

theorem mem_passagesOfFilter {steps : List Step} {part : Json} {passage : Passage}
    (h : passage ∈ passagesOfFilter steps part) :
    passage = ⟨.filter, steps, bare "criteria" part⟩ ∨
      ∃ j criterion, (membersOf "criteria" part)[j]? = some criterion ∧
        passage = ⟨.criterion, steps ++ [.criterion j], criterion⟩ := by
  rcases List.mem_cons.mp h with hself | hmember
  · exact .inl hself
  · rcases List.mem_map.mp hmember with ⟨⟨criterion, j⟩, hentry, rfl⟩
    exact .inr ⟨j, criterion, List.mk_mem_zipIdx_iff_getElem?.mp hentry, rfl⟩

theorem mem_passagesOfGroup {steps : List Step} {part : Json} {passage : Passage}
    (h : passage ∈ passagesOfGroup steps part) :
    passage = ⟨.group, steps, bare "filters" part⟩ ∨
      ∃ i filter, (membersOf "filters" part)[i]? = some filter ∧
        passage ∈ passagesOfFilter (steps ++ [.filter i]) filter := by
  rcases List.mem_cons.mp h with hself | hmember
  · exact .inl hself
  · rcases List.mem_flatMap.mp hmember with ⟨⟨filter, i⟩, hentry, hpassage⟩
    exact .inr ⟨i, filter, List.mk_mem_zipIdx_iff_getElem?.mp hentry, hpassage⟩

theorem text_filter (i : Nat) :
    (Place.document [.filter i]).text = "$.filters[" ++ toString i ++ "]" := by
  simp [Place.text, Step.text, String.join, ← String.append_assoc]

theorem text_criterion (j : Nat) :
    (Place.document [.criterion j]).text = "$.criteria[" ++ toString j ++ "]" := by
  simp [Place.text, Step.text, String.join, ← String.append_assoc]

theorem text_filter_criterion (i j : Nat) :
    (Place.document [.filter i, .criterion j]).text =
      "$.filters[" ++ toString i ++ "].criteria[" ++ toString j ++ "]" := by
  have hbetween : ∀ text : String, text ++ "]" ++ ".criteria[" = text ++ "].criteria[" :=
    fun text => String.append_assoc
  simp [hbetween, Place.text, Step.text, String.join, ← String.append_assoc]

theorem standsAt_of_mem {json : Json} {passage : Passage} (h : passage ∈ passages json) :
    StandsAt json passage (Place.document passage.steps).text := by
  unfold passages at h
  split at h
  · next hlevel =>
      rcases mem_passagesOfGroup h with rfl | ⟨i, filter, hfilter, hmember⟩
      · exact .group hlevel
      · rcases mem_passagesOfFilter hmember with rfl | ⟨j, criterion, hcriterion, rfl⟩
        · show StandsAt _ _ (Place.document [.filter i]).text
          rw [text_filter]
          exact .filterOfGroup hlevel hfilter
        · show StandsAt _ _ (Place.document [.filter i, .criterion j]).text
          rw [text_filter_criterion]
          exact .criterionOfGroup hlevel hfilter hcriterion
  · next hlevel =>
      rcases mem_passagesOfFilter h with rfl | ⟨j, criterion, hcriterion, rfl⟩
      · exact .filter hlevel
      · show StandsAt _ _ (Place.document [.criterion j]).text
        rw [text_criterion]
        exact .criterionOfFilter hlevel hcriterion
  · next hlevel =>
      rcases List.mem_singleton.mp h with rfl
      exact .criterion hlevel

/-- An error about the form of a document is about a part of it. -/
def IsAbout (steps : List Step) (e : FilterError) : Prop :=
  ∀ place defect, e = .invalid place defect → place = .document steps

theorem isAbout_invalid (steps : List Step) (defect : Defect) :
    IsAbout steps (invalid steps defect) := by
  rintro place other ⟨⟩
  rfl

theorem isAbout_of_readDraft {α : Type} {layout : Layout α} {start : α} {steps : List Step}
    {json : Json} {e : FilterError} (h : readDraft layout start steps json = .error e) :
    IsAbout steps e := by
  unfold readDraft at h
  cases hread : layout.read start json with
  | error m =>
      rw [hread] at h
      cases h
      exact isAbout_invalid steps _
  | ok draft =>
      rw [hread] at h
      cases h

theorem isAbout_of_readMembers {layout : Layout MemberDraft} {members : String}
    {steps : List Step} {json : Json} {e : FilterError}
    (h : readMembers layout members steps json = .error e) : IsAbout steps e := by
  rcases bind_eq_error.mp h with hdraft | ⟨draft, _, hmore⟩
  · exact isAbout_of_readDraft hdraft
  · split at hmore
    · cases hmore
      exact isAbout_invalid steps _
    · rcases bind_eq_error.mp hmore with hconnective | ⟨_, _, ⟨⟩⟩
      unfold connectiveOf at hconnective
      split at hconnective
      · cases hconnective
      · split at hconnective
        · cases hconnective
        · cases hconnective
          exact isAbout_invalid steps _

theorem typeOf_ne_custom {steps : List Step} {name : Option String} :
    typeOf steps name ≠ .ok (some .custom) := by
  unfold typeOf
  split
  · nofun
  · split
    · nofun
    · nofun
    · next hne _ =>
        rintro ⟨⟩
        exact hne rfl

theorem isAbout_of_readNode {steps : List Step} {json : Json} {e : FilterError}
    (h : (readNode steps json : Except _ (Node Hook)) = .error e) : IsAbout steps e := by
  rcases bind_eq_error.mp h with hdraft | ⟨draft, _, hmore⟩
  · exact isAbout_of_readDraft hdraft
  · rcases bind_eq_error.mp hmore with htype | ⟨type, htype, hrest⟩
    · unfold typeOf at htype
      split at htype
      · cases htype
      · split at htype
        · cases htype
          exact isAbout_invalid steps _
        · cases htype
          exact isAbout_invalid steps _
        · cases htype
    · split at hrest
      · next type operator _ =>
          rcases bind_eq_error.mp hrest with hnames | ⟨_, _, ⟨⟩⟩
          have hcustom : type ≠ .custom := by
            rintro rfl
            exact typeOf_ne_custom htype
          rw [(Test.ofNames_eq_error_iff.mp hnames).2, if_neg hcustom]
          nofun
      · rcases bind_eq_error.mp hrest with hreference | ⟨_, _, ⟨⟩⟩
        unfold referenceOf at hreference
        split at hreference
        · cases hreference
          exact isAbout_invalid steps _
        · cases hreference
      · cases hrest
        exact isAbout_invalid steps _
      · cases hrest
        exact isAbout_invalid steps _

theorem Passage.isAbout_of_fault? {passage : Passage} {e : FilterError}
    (h : passage.fault? Hook = some e) : IsAbout passage.steps e := by
  obtain ⟨level, steps, own⟩ := passage
  cases level with
  | criterion => exact isAbout_of_readNode (failure?_eq_some_iff.mp h)
  | filter => exact isAbout_of_readMembers (failure?_eq_some_iff.mp h)
  | group => exact isAbout_of_readMembers (failure?_eq_some_iff.mp h)

/-! ## Main statement -/

/--
A document is read as an expression if and only if each of its passages is valid by itself, and
then the expression has the structure of the document: its level, a filter for each one listed and
a node for each criterion, in their order and each as it is read alone, joined by the operators
that are given and otherwise by all.  If some passage is not valid then the fault of the first such
passage is reported, whatever comes after it, and an error about the form of the document tells
where this passage stands.
-/
theorem ofJson_structure_or_first_fault (fields : List (String × Json)) :
    let json : Json := .object fields
    (∀ expression : Expression Hook,
      Expression.ofJson json = .ok expression ↔ Describes json expression) ∧
    ((∃ expression : Expression Hook, Expression.ofJson json = .ok expression) ↔
      ∀ passage ∈ passages json, passage.IsValid Hook) ∧
    (∀ e : FilterError, (Expression.ofJson json : Except _ (Expression Hook)) = .error e ↔
      ∃ before passage after, passages json = before ++ passage :: after ∧
        (∀ earlier ∈ before, earlier.IsValid Hook) ∧ passage.fault? Hook = some e) ∧
    ∀ before passage after e, passages json = before ++ passage :: after →
      (∀ earlier ∈ before, earlier.IsValid Hook) → passage.fault? Hook = some e →
        (∀ place defect, e = .invalid place defect → StandsAt json passage place.text) ∧
        ∀ fields' after', passages (.object fields') = before ++ passage :: after' →
          (Expression.ofJson (.object fields') : Except _ (Expression Hook)) = .error e := by
  intro json
  have hfirst : ∀ (fields : List (String × Json)) (e : FilterError),
      (Expression.ofJson (.object fields) : Except _ (Expression Hook)) = .error e ↔
        ∃ before passage after, passages (.object fields) = before ++ passage :: after ∧
          (∀ earlier ∈ before, earlier.IsValid Hook) ∧ passage.fault? Hook = some e := by
    intro fields e
    rw [← failure?_eq_some_iff, failure?_ofJson, List.findSome?_eq_some_iff]
    simp only [Passage.fault?_eq_none_iff, and_comm]
  constructor
  · intro expression
    exact ofJson_eq_ok_iff
  · constructor
    · rw [← failure?_eq_none_iff, failure?_ofJson, List.findSome?_eq_none_iff]
      simp only [Passage.fault?_eq_none_iff]
      exact Iff.rfl
    · constructor
      · exact hfirst fields
      · intro before passage after e hpassages hbefore hfault
        constructor
        · intro place defect he
          have hmem : passage ∈ passages json := by
            rw [hpassages]
            exact List.mem_append_right before List.mem_cons_self
          rw [Passage.isAbout_of_fault? hfault place defect he]
          exact standsAt_of_mem hmem
        · intro fields' after' hpassages'
          exact (hfirst fields' e).mpr ⟨before, passage, after', hpassages', hbefore, hfault⟩

theorem ofJson_first_fault_of_group :
    let known : Json := .object [("alias", .string "adults")]
    let unfinished : Json := .object [("type", .string "NUMBER")]
    let first : Json := .object [("criteria", .array [known]), ("operator", .null)]
    let second : Json := .object [("criteria", .array [known, unfinished, .null])]
    let fields (others : List Json) : List (String × Json) :=
      [("filters", .array (first :: second :: others)), ("operator", .string "OR")]
    let passage : Passage := ⟨.criterion, [.filter 1, .criterion 1], unfinished⟩
    StandsAt (.object (fields [.null])) passage "$.filters[1].criteria[1]" ∧
      ∀ others, (Expression.ofJson (.object (fields others)) : Except _ (Expression Empty)) =
        .error (.invalid (.document [.filter 1, .criterion 1]) .missingOperator) := by
  intro known unfinished first second fields passage
  let before : List Passage :=
    [⟨.group, [], .object [("filters", .array []), ("operator", .string "OR")]⟩,
      ⟨.filter, [.filter 0], .object [("criteria", .array []), ("operator", .null)]⟩,
      ⟨.criterion, [.filter 0, .criterion 0], known⟩,
      ⟨.filter, [.filter 1], .object [("criteria", .array [])]⟩,
      ⟨.criterion, [.filter 1, .criterion 0], known⟩]
  have hpassages : ∀ others, ∃ after,
      passages (.object (fields others)) = before ++ passage :: after :=
    fun others => ⟨_, rfl⟩
  have hbefore : ∀ earlier ∈ before, earlier.IsValid Empty := by
    simp only [← Passage.fault?_eq_none_iff, before, List.forall_mem_cons]
    exact ⟨rfl, rfl, rfl, rfl, rfl, List.forall_mem_nil _⟩
  rcases hpassages [.null] with ⟨after, hafter⟩
  have hfirst := (ofJson_structure_or_first_fault (fields [.null])).2.2.2 before passage after _
    hafter hbefore rfl
  constructor
  · exact hfirst.1 _ _ rfl
  · intro others
    rcases hpassages others with ⟨after', hafter'⟩
    exact hfirst.2 (fields others) after' hafter'

end Document

end RecordFilter
