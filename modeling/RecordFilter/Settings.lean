import RecordFilter.Json.Reader

/-!
# Settings

The settings of an engine are read from a text in one pass, without building a JSON
value first.  A field that is not given has its default.  Mistakes are reported at
the place where reading came to a halt: a value of the wrong type right after it, a
field that is unknown or repeated after its name and the blanks that follow.
-/

namespace RecordFilter

structure Settings where
  /-- The number of records evaluated at once, unless there is no limit. -/
  concurrency : Option Nat
  /-- Whether folded texts are remembered. -/
  cacheNormalizedText : Bool
  deriving DecidableEq, Repr

namespace Settings

def default : Settings := ⟨none, true⟩

def toJson (settings : Settings) : Json :=
  let concurrency :=
    match settings.concurrency with
    | some limit => Json.ofNat limit
    | none => .null
  .ofFields [("concurrency", concurrency),
    ("cacheNormalizedText", .bool settings.cacheNormalizedText)]

/-! ## Reading values of a known type -/

def mismatched (m : Mismatch) (rest : List Char) : Except ReadError α :=
  .error ⟨.mismatch m, rest, false⟩

/-- Report the value that follows as being of the wrong type. -/
def wrongType (expected : String) (cs : List Char) : Except ReadError α := do
  match cs with
  | [] => Json.failedAhead .expectedValue []
  | c :: rest =>
      if c = 'n' then
        mismatched (.wrongType .null expected) (← Json.readWord ['u', 'l', 'l'] rest)
      else if c = 't' then
        mismatched (.wrongType (.boolean true) expected) (← Json.readWord ['r', 'u', 'e'] rest)
      else if c = 'f' then
        mismatched (.wrongType (.boolean false) expected)
          (← Json.readWord ['a', 'l', 's', 'e'] rest)
      else if c = '-' then
        let (json, rest) ← Json.readNumber true rest
        mismatched (.wrongType (.ofJson json) expected) rest
      else if c.isDigit then
        let (json, rest) ← Json.readNumber false cs
        mismatched (.wrongType (.ofJson json) expected) rest
      else if c = '"' then
        let (s, rest) ← Json.readString [] rest
        mismatched (.wrongType (.string s) expected) rest
      else if c = '[' then mismatched (.wrongType .sequence expected) cs
      else if c = '\x7b' then mismatched (.wrongType .map expected) cs
      else Json.failedAhead .expectedValue cs

/-- The natural that a number is. -/
def naturalOf (json : Json) (rest : List Char) : Except ReadError (Nat × List Char) :=
  match json with
  | .integer (.ofNat n) => .ok (n, rest)
  | .integer i => mismatched (.wrongValue (.integer i) "usize") rest
  | json => mismatched (.wrongType (.ofJson json) "usize") rest

def readNatural (cs : List Char) : Except ReadError (Option Nat × List Char) := do
  match Json.skipBlanks cs with
  | [] => Json.failedAhead .endInValue []
  | c :: rest =>
      if c = 'n' then return (none, ← Json.readWord ['u', 'l', 'l'] rest)
      else if c = '-' ∨ c.isDigit then
        let (json, rest) ←
          if c = '-' then Json.readNumber true rest else Json.readNumber false (c :: rest)
        let (n, rest) ← naturalOf json rest
        return (some n, rest)
      else wrongType "usize" (c :: rest)

def readFlag (cs : List Char) : Except ReadError (Bool × List Char) := do
  match Json.skipBlanks cs with
  | [] => Json.failedAhead .endInValue []
  | c :: rest =>
      if c = 't' then return (true, ← Json.readWord ['r', 'u', 'e'] rest)
      else if c = 'f' then return (false, ← Json.readWord ['a', 'l', 's', 'e'] rest)
      else wrongType "a boolean" (c :: rest)

/-! ## Reading settings -/

def fieldNames : List String := ["concurrency", "cacheNormalizedText"]

structure Draft where
  concurrency : Option (Option Nat)
  cacheNormalizedText : Option Bool

def ofDraft (draft : Draft) : Settings where
  concurrency := draft.concurrency.getD default.concurrency
  cacheNormalizedText := draft.cacheNormalizedText.getD default.cacheNormalizedText

/-- Report a name; the end of the object is passed if it follows. -/
def wrongName (m : Mismatch) (cs : List Char) : Except ReadError α :=
  match Json.skipBlanks cs with
  | '\x7d' :: rest => mismatched m rest
  | rest => mismatched m rest

def readField (name : String) (draft : Draft) (cs : List Char) :
    Except ReadError (Draft × List Char) := do
  if name == "concurrency" then
    if draft.concurrency.isSome then wrongName (.duplicateField name) cs
    else
      let (limit, rest) ← readNatural (← Json.readColon cs)
      return ({ draft with concurrency := some limit }, rest)
  else if name == "cacheNormalizedText" then
    if draft.cacheNormalizedText.isSome then wrongName (.duplicateField name) cs
    else
      let (flag, rest) ← readFlag (← Json.readColon cs)
      return ({ draft with cacheNormalizedText := some flag }, rest)
  else wrongName (.unknownField name fieldNames) cs

def readFields (fuel : Nat) (first : Bool) (draft : Draft) (cs : List Char) :
    Except ReadError (Draft × List Char) :=
  match fuel with
  | 0 => Json.failed .tooDeep cs
  | fuel + 1 => do
      match (← Json.nextName first cs) with
      | (false, rest) => return (draft, rest)
      | (true, rest) =>
          let (name, rest) ← Json.readString [] rest
          let (draft, rest) ← readField name draft rest
          readFields fuel false draft rest

def readArrayEnd (cs : List Char) : Except ReadError (List Char) :=
  match Json.skipBlanks cs with
  | [] => Json.failedAhead .endInList []
  | ']' :: rest => .ok rest
  | ',' :: rest =>
      match Json.skipBlanks rest with
      | ']' :: rest => Json.failedAhead .trailingComma (']' :: rest)
      | rest => Json.failedAhead .trailingCharacters rest
  | rest => Json.failedAhead .trailingCharacters rest

/-- Read settings given as an array in the order of the fields. -/
def readItems (cs : List Char) : Except ReadError (Draft × List Char) := do
  match (← Json.nextItem true cs) with
  | (false, rest) => return (⟨none, none⟩, rest)
  | (true, rest) =>
      let (limit, rest) ← readNatural rest
      match (← Json.nextItem false rest) with
      | (false, rest) => return (⟨some limit, none⟩, rest)
      | (true, rest) =>
          let (flag, rest) ← readFlag rest
          return (⟨some limit, some flag⟩, ← readArrayEnd rest)

def readWholeText (cs : List Char) : Except ReadError Settings := do
  let (draft, rest) ←
    match Json.skipBlanks cs with
    | [] => Json.failedAhead .endInValue []
    | '[' :: rest => readItems rest
    | '\x7b' :: rest => readFields (rest.length + 1) true ⟨none, none⟩ rest
    | rest => wrongType "struct EngineConfig" rest
  Json.readEnd rest
  return ofDraft draft

def ofText (text : String) : Except JsonError Settings :=
  (readWholeText text.toList).mapError (JsonError.locate text.toList)

end Settings
end RecordFilter
