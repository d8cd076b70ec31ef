import RecordFilter.Expression.Reader
import RecordFilter.Settings

/-!
# Contents of files

What can be loaded from files: settings, records, expressions and criteria to save.
A loader is given the text of a file, or the reason why there is none.

Records come as one JSON array or as one JSON value a line; blank lines do not
count.
-/

namespace RecordFilter

abbrev FileText := Except FileFault String

namespace FileText

variable {Hook : Type}

def text (file : FileText) : Except FilterError String :=
  file.mapError .file

def json (file : FileText) : Except FilterError Json := do
  (Json.ofText (← file.text)).mapError .json

def settings (file : FileText) : Except FilterError Settings := do
  (Settings.ofText (← file.text)).mapError .json

/-! ## Records -/

/-- The lines of a text without surrounding white space, blank ones left out. -/
def recordLines (cs : List Char) : List (List Char) :=
  ((splitAtMark '\n' cs).map trim).filter fun line => !line.isEmpty

def readJson (cs : List Char) : Except FilterError Json :=
  (Json.ofText (String.ofList cs)).mapError .json

/-- The values of an array, or of one value a line. -/
def recordsOf (text : String) : Except FilterError (List Json) := do
  match trimStart text.toList with
  | '[' :: rest =>
      match (← readJson ('[' :: rest)) with
      | .array items => return items
      | json => return [json]
  | cs => (recordLines cs).mapM readJson

def records (file : FileText) : Except FilterError (List Value) := do
  return (← recordsOf (← file.text)).map Value.ofJson

/-! ## Expressions and criteria -/

def expression (file : FileText) : Except FilterError (Expression Hook) := do
  Expression.ofJson (← file.json)

/-- A criterion of a list of criteria to save, which has to have an alias. -/
def aliased (json : Json) (position : Nat) : Except FilterError (Criterion Hook) := do
  let criterion ← Criterion.ofJson json
  if criterion.aliasName.isSome then return criterion
  else .error (.invalid (.document [.entry position]) .missingAlias)

/-- Criteria to save under their aliases. -/
def aliases (file : FileText) : Except FilterError (List (Criterion Hook)) := do
  match (← file.json) with
  | .array items => items.zipIdx.mapM fun (item, position) => aliased item position
  | _ => .error (.invalid .root .notAnArray)

end FileText
end RecordFilter
