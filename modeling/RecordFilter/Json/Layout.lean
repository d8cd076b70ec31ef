import RecordFilter.Json.Mismatch

/-!
# Layouts of documents

A part of a document has a fixed list of fields.  It is given as an object with
these fields by name, in any number as long as the required ones are there, or as
an array of all of them in the order of the layout.

Of several mistakes the first one is reported: fields are visited in the order of
their names, items in their order, and a missing field is noticed last.
-/

namespace RecordFilter

/-- How the fields of a part of a document are read into a draft. -/
structure Layout (α : Type) where
  /-- What the part is called in reports. -/
  name : String
  fields : List String
  /-- Read one of the fields. -/
  put : String → Json → α → Except Mismatch α

namespace Layout

variable {α : Type}

def putNamed (layout : Layout α) (draft : α) (field : String × Json) : Except Mismatch α :=
  if layout.fields.contains field.1 then layout.put field.1 field.2 draft
  else .error (.unknownField field.1 layout.fields)

/-- Read the fields that are given. -/
def read (layout : Layout α) (start : α) : Json → Except Mismatch α
  | .object fields => fields.foldlM layout.putNamed start
  | .array items => do
      let draft ← (layout.fields.zip items).foldlM layout.putNamed start
      if items.length < layout.fields.length then
        .error (.wrongLength items.length
          (layout.name ++ " with " ++ toString layout.fields.length ++ " elements"))
      else if layout.fields.length < items.length then
        .error (.wrongLength items.length "fewer elements in array")
      else return draft
  | json => .error (.wrongType (.ofJson json) layout.name)

end Layout

namespace Json

/-! ## Fields of simple shapes -/

def wrongType (json : Json) (expected : String) : Except Mismatch α :=
  .error (.wrongType (.ofJson json) expected)

def readText : Json → Except Mismatch (Option String)
  | .null => .ok none
  | .string s => .ok (some s)
  | json => wrongType json "a string"

def readFlag : Json → Except Mismatch (Option Bool)
  | .null => .ok none
  | .bool b => .ok (some b)
  | json => wrongType json "a boolean"

def readSequence : Json → Except Mismatch (List Json)
  | .array items => .ok items
  | json => wrongType json "a sequence"

def readAny : Json → Option Json
  | .null => none
  | json => some json

def string? : Json → Option String
  | .string s => some s
  | _ => none

def strings? : Json → Option (List String)
  | .array items => items.mapM string?
  | _ => none

end Json
end RecordFilter
