import RecordFilter.Json.Writer
import RecordFilter.Text.Quoted
import RecordFilter.Value.Basic

/-!
# Values as JSON and as text

Values come from JSON and are shown as JSON.  On the way out everything that JSON
does not know is replaced: undefined by null, dates and patterns by their text, sets by
arrays, and maps by objects or, if some key is not a string, by arrays of pairs.
Undefined fields of objects are left out.

The display text of a scalar is its plain text, that of a container its JSON.  The
inspection text shows the kinds as well.
-/

namespace RecordFilter

namespace Value

/-! ## Scalars -/

def patternText (p : Pattern) : String :=
  "/" ++ p.source ++ "/"

/-- A date to the millisecond. -/
def dateText (t : Instant) : String :=
  String.ofList (t.write .milliseconds)

/-- Whole numbers within 63 bits become integers; only finite numbers are kept. -/
def numberJson (n : Number) : Json :=
  match n.toInt? with
  | some i => if i.natAbs < Json.leastInteger.natAbs then .integer i else .decimal n
  | none => if n.isNaN || n.isInfinite then .null else .decimal n

/-! ## JSON -/

mutual

def toJson : Value → Json
  | .undefined => .null
  | .null => .null
  | .boolean b => .bool b
  | .number n => numberJson n
  | .string s => .string s
  | .date t => .string (dateText t)
  | .regex p => .string (patternText p)
  | .array items => .array (jsonItems items)
  | .set items => .array (jsonItems items)
  | .map entries =>
      if entries.all fun entry => entry.1.string?.isSome then
        Json.ofFields (jsonNamed entries)
      else .array (jsonPairs entries)
  | .object fields => .object (jsonFields fields)
termination_by structural v => v

def jsonItems : List Value → List Json
  | [] => []
  | item :: rest => toJson item :: jsonItems rest
termination_by structural items => items

def jsonPair : Value × Value → Json
  | (key, value) => .array [toJson key, toJson value]
termination_by structural entry => entry

def jsonPairs : List (Value × Value) → List Json
  | [] => []
  | entry :: rest => jsonPair entry :: jsonPairs rest
termination_by structural entries => entries

def jsonNamedEntry : Value × Value → String × Json
  | (key, value) => (key.string?.getD "", toJson value)
termination_by structural entry => entry

/-- The entries of a map under the strings that are its keys. -/
def jsonNamed : List (Value × Value) → List (String × Json)
  | [] => []
  | entry :: rest => jsonNamedEntry entry :: jsonNamed rest
termination_by structural entries => entries

def jsonField : String × Value → Option (String × Json)
  | (name, value) => if value.isUndefined then none else some (name, toJson value)
termination_by structural field => field

/-- The fields of an object that are not undefined. -/
def jsonFields : List (String × Value) → List (String × Json)
  | [] => []
  | field :: rest =>
      match jsonField field with
      | some named => named :: jsonFields rest
      | none => jsonFields rest
termination_by structural fields => fields

end

mutual

def ofJson : Json → Value
  | .null => .null
  | .bool b => .boolean b
  | .integer i => .number (.ofInt i)
  | .decimal n => .number n
  | .string s => .string s
  | .array items => .array (ofJsonItems items)
  | .object fields => .object (ofJsonFields fields)
termination_by structural json => json

def ofJsonItems : List Json → List Value
  | [] => []
  | item :: rest => ofJson item :: ofJsonItems rest
termination_by structural items => items

def ofJsonField : String × Json → String × Value
  | (name, json) => (name, ofJson json)
termination_by structural field => field

def ofJsonFields : List (String × Json) → List (String × Value)
  | [] => []
  | field :: rest => ofJsonField field :: ofJsonFields rest
termination_by structural fields => fields

end

/-! ## Display text -/

/-- The text that stands for a value in messages and in text comparisons. -/
def display : Value → String
  | .undefined => "undefined"
  | .null => "null"
  | .boolean b => if b then "true" else "false"
  | .number n => String.ofList (n.write .plain)
  | .string s => s
  | .date t => dateText t
  | .regex p => patternText p
  | v => v.toJson.render

/-! ## Inspection text -/

def separated (texts : List (List Char)) : List Char :=
  [',', ' '].intercalate texts

mutual

def inspect : Value → List Char
  | .undefined => "Undefined".toList
  | .null => "Null".toList
  | .boolean b => "Boolean(".toList ++ (if b then "true" else "false").toList ++ [')']
  | .number n => "Number(".toList ++ n.write .inspection ++ [')']
  | .string s => "String(".toList ++ quoteText s ++ [')']
  | .date t => "Date(".toList ++ t.write .asNeeded ++ [')']
  | .regex p => "Regex(".toList ++ (patternText p).toList ++ [')']
  | .array items => "Array([".toList ++ separated (inspectItems items) ++ "])".toList
  | .set items => "Set([".toList ++ separated (inspectItems items) ++ "])".toList
  | .map entries => "Map([".toList ++ separated (inspectEntries entries) ++ "])".toList
  | .object fields =>
      "Object(\x7b".toList ++ separated (inspectFields fields) ++ "\x7d)".toList
termination_by structural v => v

def inspectItems : List Value → List (List Char)
  | [] => []
  | item :: rest => inspect item :: inspectItems rest
termination_by structural items => items

def inspectEntry : Value × Value → List Char
  | (key, value) => '(' :: inspect key ++ ", ".toList ++ inspect value ++ [')']
termination_by structural entry => entry

def inspectEntries : List (Value × Value) → List (List Char)
  | [] => []
  | entry :: rest => inspectEntry entry :: inspectEntries rest
termination_by structural entries => entries

def inspectField : String × Value → List Char
  | (name, value) => quoteText name ++ ": ".toList ++ inspect value
termination_by structural field => field

def inspectFields : List (String × Value) → List (List Char)
  | [] => []
  | field :: rest => inspectField field :: inspectFields rest
termination_by structural fields => fields

end

end Value
end RecordFilter
