import RecordFilter.Keyed
import RecordFilter.Number.Basic
import RecordFilter.Regex.Pattern
import RecordFilter.Time.Instant

/-!
# Values

Records have no schema, so every field holds a value of any kind.  The kinds keep
apart what the operators need to tell apart: a field that is missing and one that
is null, ordered arrays and unordered sets, maps with keys of any kind and objects
with names as keys.

The fields of an object are in ascending order of their names.
-/

namespace RecordFilter

inductive Value where
  | undefined
  | null
  | boolean (b : Bool)
  | number (n : Number)
  | string (s : String)
  | date (t : Instant)
  | regex (p : Pattern)
  | array (items : List Value)
  | set (items : List Value)
  | map (entries : List (Value × Value))
  | object (fields : List (String × Value))
  deriving Inhabited

namespace Value

def ofFields (fields : List (String × Value)) : Value :=
  .object (Keyed.ofList fields)

/-! ## Kinds -/

def kindName : Value → String
  | .undefined => "undefined"
  | .null => "null"
  | .boolean _ => "boolean"
  | .number _ => "number"
  | .string _ => "string"
  | .date _ => "date"
  | .regex _ => "regex"
  | .array _ => "array"
  | .set _ => "set"
  | .map _ => "map"
  | .object _ => "object"

def isUndefined : Value → Bool
  | .undefined => true
  | _ => false

def isNull : Value → Bool
  | .null => true
  | _ => false

def isNil (v : Value) : Bool :=
  v.isUndefined || v.isNull

/-- Whether paths can lead into the value. -/
def isContainer : Value → Bool
  | .array _ | .map _ | .object _ => true
  | _ => false

def string? : Value → Option String
  | .string s => some s
  | _ => none

def number? : Value → Option Number
  | .number n => some n
  | _ => none

def boolean? : Value → Option Bool
  | .boolean b => some b
  | _ => none

def array? : Value → Option (List Value)
  | .array items => some items
  | _ => none

def items? : Value → Option (List Value)
  | .array items | .set items => some items
  | _ => none

def object? : Value → Option (List (String × Value))
  | .object fields => some fields
  | _ => none

/-! ## Look-up -/

/-- The value of a field of an object, or under a string key of a map. -/
def get? : Value → String → Option Value
  | .object fields, key => fields.lookup key
  | .map entries, key =>
      (entries.find? fun entry => entry.1.string? == some key).map Prod.snd
  | _, _ => none

/-! ## Tests -/

/-- Nothing, falsehood, zero, NaN and the empty string do not count as true. -/
def isTruthy : Value → Bool
  | .undefined | .null => false
  | .boolean b => b
  | .number n => !n.isZero && !n.isNaN
  | .string s => s != ""
  | _ => true

/-- Identity: only scalars without structure can be identical. -/
def isIdentical : Value → Value → Bool
  | .undefined, .undefined => true
  | .null, .null => true
  | .boolean a, .boolean b => a == b
  | .number a, .number b => a.equals b
  | .string a, .string b => a == b
  | _, _ => false

end Value
end RecordFilter
