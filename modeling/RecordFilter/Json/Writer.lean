import RecordFilter.Json.Basic
import RecordFilter.Number.Numeral
import RecordFilter.Text.Digits

/-!
# Writing JSON

Two written forms: compact, without any blanks, and indented by two spaces a
level.  Strings escape the quote, the backslash and the control characters and
nothing else.
-/

namespace RecordFilter

namespace Json

def escapeChar (c : Char) : List Char :=
  if c = '"' then ['\\', '"']
  else if c = '\\' then ['\\', '\\']
  else if c.toNat = 0x08 then ['\\', 'b']
  else if c.toNat = 0x09 then ['\\', 't']
  else if c.toNat = 0x0A then ['\\', 'n']
  else if c.toNat = 0x0C then ['\\', 'f']
  else if c.toNat = 0x0D then ['\\', 'r']
  else if c.toNat < 0x10 then ['\\', 'u', '0', '0', '0'] ++ hexDigits c.toNat
  else if c.toNat < 0x20 then ['\\', 'u', '0', '0'] ++ hexDigits c.toNat
  else [c]

def quote (s : String) : List Char :=
  '"' :: s.toList.flatMap escapeChar ++ ['"']

/-! ## Compact form -/

mutual

def write : Json → List Char
  | .null => "null".toList
  | .bool true => "true".toList
  | .bool false => "false".toList
  | .integer i => intDigits i
  | .decimal n => n.write .json
  | .string s => quote s
  | .array items => '[' :: writeItems items ++ [']']
  | .object fields => '\x7b' :: writeFields fields ++ ['\x7d']
termination_by structural json => json

def writeItems : List Json → List Char
  | [] => []
  | item :: rest => write item ++ if rest.isEmpty then [] else ',' :: writeItems rest
termination_by structural items => items

def writeFields : List (String × Json) → List Char
  | [] => []
  | field :: rest => writeField field ++ if rest.isEmpty then [] else ',' :: writeFields rest
termination_by structural fields => fields

def writeField : String × Json → List Char
  | (name, value) => quote name ++ ':' :: write value
termination_by structural field => field

end

def render (json : Json) : String :=
  String.ofList json.write

/-! ## Indented form -/

def newLine (level : Nat) : List Char :=
  '\n' :: List.replicate (2 * level) ' '

mutual

def writeIndented (level : Nat) : Json → List Char
  | .array (item :: rest) =>
      '[' :: writeIndentedItems (level + 1) (item :: rest) ++ newLine level ++ [']']
  | .object (field :: rest) =>
      '\x7b' :: writeIndentedFields (level + 1) (field :: rest) ++ newLine level ++ ['\x7d']
  | json => write json
termination_by structural json => json

def writeIndentedItems (level : Nat) : List Json → List Char
  | [] => []
  | item :: rest =>
      newLine level ++ writeIndented level item ++
        if rest.isEmpty then [] else ',' :: writeIndentedItems level rest
termination_by structural items => items

def writeIndentedFields (level : Nat) : List (String × Json) → List Char
  | [] => []
  | field :: rest =>
      newLine level ++ writeIndentedField level field ++
        if rest.isEmpty then [] else ',' :: writeIndentedFields level rest
termination_by structural fields => fields

def writeIndentedField (level : Nat) : String × Json → List Char
  | (name, value) => quote name ++ ':' :: ' ' :: writeIndented level value
termination_by structural field => field

end

def renderIndented (json : Json) : String :=
  String.ofList (json.writeIndented 0)

end Json
end RecordFilter
