import RecordFilter.Json.Basic
import RecordFilter.Number.Numeral
import RecordFilter.Text.Quoted

/-!
# Mismatches

What can be wrong with well-formed JSON when a value of a known shape is read
from it, and how that is reported.
-/

namespace RecordFilter

/-- What was met, as far as a report shows it. -/
inductive Found where
  | null
  | boolean (b : Bool)
  | integer (i : Int)
  | decimal (n : Number)
  | string (s : String)
  | sequence
  | map

inductive Mismatch where
  | wrongType (found : Found) (expected : String)
  | wrongValue (found : Found) (expected : String)
  | wrongLength (length : Nat) (expected : String)
  | unknownField (name : String) (known : List String)
  | duplicateField (name : String)
  | missingField (name : String)
  | noAlternative (name : String)

namespace Found

def ofJson : Json → Found
  | .null => .null
  | .bool b => .boolean b
  | .integer i => .integer i
  | .decimal n => .decimal n
  | .string s => .string s
  | .array _ => .sequence
  | .object _ => .map

def text : Found → String
  | .null => "null"
  | .boolean b => "boolean `" ++ (if b then "true" else "false") ++ "`"
  | .integer i => "integer `" ++ String.ofList (intDigits i) ++ "`"
  | .decimal n => "floating point `" ++ String.ofList (n.write .json) ++ "`"
  | .string s => "string " ++ String.ofList (quoteText s)
  | .sequence => "sequence"
  | .map => "map"

end Found

namespace Mismatch

def ticked (name : String) : String :=
  "`" ++ name ++ "`"

def choices : List String → String
  | [] => "there are no fields"
  | [a] => "expected " ++ ticked a
  | [a, b] => "expected " ++ ticked a ++ " or " ++ ticked b
  | names => "expected one of " ++ ", ".intercalate (names.map ticked)

def message : Mismatch → String
  | .wrongType found expected => "invalid type: " ++ found.text ++ ", expected " ++ expected
  | .wrongValue found expected => "invalid value: " ++ found.text ++ ", expected " ++ expected
  | .wrongLength length expected =>
      "invalid length " ++ toString length ++ ", expected " ++ expected
  | .unknownField name known => "unknown field " ++ ticked name ++ ", " ++ choices known
  | .duplicateField name => "duplicate field " ++ ticked name
  | .missingField name => "missing field " ++ ticked name
  | .noAlternative name => "data did not match any variant of untagged enum " ++ name

end Mismatch
end RecordFilter
