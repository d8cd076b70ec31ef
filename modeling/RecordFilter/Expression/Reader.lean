import RecordFilter.Expression.Basic
import RecordFilter.Json.Layout

/-!
# Expressions as documents

An expression is written as a JSON object whose fields tell its level: `filters`
make a group, `criteria` make a filter, and anything else is a criterion.  A
criterion with an alias but without a type or an operator refers to a saved one, and
what else it gives overrides the settings of that one.

Errors tell the place of the part that they are about.  Of several the first one in
the order of the document is reported, a part before its members.
-/

namespace RecordFilter

namespace Document

/-! ## Drafts -/

structure MemberDraft where
  operator : Option String
  members : Option (List Json)

def memberLayout (name members : String) : Layout MemberDraft where
  name := name
  fields := ["operator", members]
  put field json draft :=
    if field == "operator" then do return { draft with operator := ← json.readText }
    else do return { draft with members := some (← json.readSequence) }

def groupLayout : Layout MemberDraft := memberLayout "struct RawGroup" "filters"

def filterLayout : Layout MemberDraft := memberLayout "struct RawFilter" "criteria"

structure CriterionDraft where
  type : Option String
  operator : Option String
  operand : Option Json
  path : Option Path
  default : Option Json
  normalize : Option Bool
  matchInArray : Option Bool
  heavy : Option Bool
  aliasName : Option String

def CriterionDraft.empty : CriterionDraft :=
  ⟨none, none, none, none, none, none, none, none, none⟩

/-- A path is written with dots or as a list of names. -/
def readPath : Json → Except Mismatch (Option Path)
  | .null => .ok none
  | .string s => .ok (some (Path.ofText s))
  | json =>
      match json.strings? with
      | some names => .ok (some names)
      | none => .error (.noAlternative "RawPath")

def criterionLayout : Layout CriterionDraft where
  name := "struct RawCriterion"
  fields := ["type", "operator", "matchValue", "valuePath", "defaultValue", "normalize",
    "matchInArray", "heavy", "alias"]
  put field json draft :=
    match field with
    | "type" => do return { draft with type := ← json.readText }
    | "operator" => do return { draft with operator := ← json.readText }
    | "matchValue" => return { draft with operand := json.readAny }
    | "valuePath" => do return { draft with path := ← readPath json }
    | "defaultValue" => return { draft with default := json.readAny }
    | "normalize" => do return { draft with normalize := ← json.readFlag }
    | "matchInArray" => do return { draft with matchInArray := ← json.readFlag }
    | "heavy" => do return { draft with heavy := ← json.readFlag }
    | _ => do return { draft with aliasName := ← json.readText }

/-! ## Criteria -/

variable {Hook : Type}

def invalid (steps : List Step) (defect : Defect) : FilterError :=
  .invalid (.document steps) defect

/-- Read a draft of a part of the document. -/
def readDraft (layout : Layout α) (start : α) (steps : List Step) (json : Json) :
    Except FilterError α :=
  (layout.read start json).mapError fun m => invalid steps (.mismatch m)

/-- An object with the single field `$path` stands for a value of the record. -/
def operandOf (json : Json) : Operand Hook :=
  match json with
  | .object [("$path", .string text)] => .path (Path.ofText text)
  | .object [("$path", names)] =>
      match names.strings? with
      | some names => .path names
      | none => .literal (.ofJson json)
  | json => .literal (.ofJson json)

/-- The type that a draft names, if it names one. -/
def typeOf (steps : List Step) (name : Option String) :
    Except FilterError (Option CriterionType) :=
  match name with
  | none => .ok none
  | some name =>
      match CriterionType.ofName? name with
      | none => .error (invalid steps (.unknownType name))
      | some .custom => .error (invalid steps .customInDocument)
      | some type => .ok (some type)

/-- The reference that a draft with an alias makes. -/
def referenceOf (steps : List Step) (draft : CriterionDraft) (aliasName : String)
    (type : Option CriterionType) : Except FilterError (Reference Hook) :=
  if draft.heavy.isSome || draft.default.isSome then
    .error (invalid steps .fixedInReference)
  else
    .ok { aliasName := aliasName
          type := type
          operator := draft.operator
          operand := draft.operand.map operandOf
          path := draft.path
          normalize := draft.normalize
          matchInArray := draft.matchInArray
          criterionMapper := none
          valueMapper := none }

def criterionOf (draft : CriterionDraft) (test : Test Hook) : Criterion Hook :=
  let plain := Criterion.ofTest test .undefined
  { plain with
    operand := (draft.operand.map operandOf).getD plain.operand
    path := draft.path.getD plain.path
    default := (draft.default.map Value.ofJson).getD plain.default
    normalize := draft.normalize.getD plain.normalize
    matchInArray := draft.matchInArray.getD plain.matchInArray
    heavy := draft.heavy.getD plain.heavy
    aliasName := draft.aliasName }

def readNode (steps : List Step) (json : Json) : Except FilterError (Node Hook) := do
  let draft ← readDraft criterionLayout .empty steps json
  let type ← typeOf steps draft.type
  match type, draft.operator, draft.aliasName with
  | some type, some operator, _ =>
      return .criterion (criterionOf draft (← Test.ofNames type operator))
  | type, _, some aliasName => return .reference (← referenceOf steps draft aliasName type)
  | none, _, none => .error (invalid steps .missingType)
  | some _, none, none => .error (invalid steps .missingOperator)

/-! ## Filters and groups -/

def connectiveOf (steps : List Step) (name : Option String) : Except FilterError Connective :=
  match name with
  | none => .ok .all
  | some name =>
      match Connective.ofName? name with
      | some connective => .ok connective
      | none => .error (invalid steps (.badConnective name))

def readMembers (layout : Layout MemberDraft) (members : String) (steps : List Step)
    (json : Json) : Except FilterError (Connective × List Json) := do
  let draft ← readDraft layout ⟨none, none⟩ steps json
  match draft.members with
  | none => .error (invalid steps (.mismatch (.missingField members)))
  | some items => return (← connectiveOf steps draft.operator, items)

/-- Read the members one after another, each at its own step. -/
def readAll (read : List Step → Json → Except FilterError α) (step : Nat → Step)
    (steps : List Step) (items : List Json) : Except FilterError (List α) :=
  items.zipIdx.mapM fun (item, position) => read (steps ++ [step position]) item

def readFilter (steps : List Step) (json : Json) : Except FilterError (Filter Hook) := do
  let (connective, items) ← readMembers filterLayout "criteria" steps json
  return ⟨connective, ← readAll readNode .criterion steps items⟩

def readGroup (steps : List Step) (json : Json) : Except FilterError (FilterGroup Hook) := do
  let (connective, items) ← readMembers groupLayout "filters" steps json
  return ⟨connective, ← readAll readFilter .filter steps items⟩

end Document

variable {Hook : Type}

/-- The expression that a document describes. -/
def Expression.ofJson (json : Json) : Except FilterError (Expression Hook) :=
  match json with
  | .object fields =>
      if Keyed.contains "filters" fields then .group <$> Document.readGroup [] json
      else if Keyed.contains "criteria" fields then .filter <$> Document.readFilter [] json
      else .node <$> Document.readNode [] json
  | _ => .error (Document.invalid [] .notAnObject)

/-- The criterion that a document defines in full. -/
def Criterion.ofJson (json : Json) : Except FilterError (Criterion Hook) := do
  match (← Document.readNode [] json) with
  | .criterion criterion => return criterion
  | .reference reference =>
      .error (Document.invalid [] (.referenceForDefinition reference.aliasName))

end RecordFilter
