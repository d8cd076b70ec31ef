import RecordFilter.Json.Mismatch
import RecordFilter.Number.Scaling
import RecordFilter.Text.Digits

/-!
# Reading JSON

A reader takes the characters that are left and gives back what it read and the
characters after it.  A failure keeps the characters that were left as well, so
that its line and column can be told from the whole text.

Nesting is limited, and numbers beyond the range of a double are refused.  When a
field name is repeated, the last value stays.
-/

namespace RecordFilter

inductive JsonFault where
  | endInList
  | endInObject
  | endInString
  | endInValue
  | expectedColon
  | expectedListEnd
  | expectedObjectEnd
  | expectedWord
  | expectedValue
  | badEscape
  | badNumber
  | numberOutOfRange
  | controlCharacter
  | nameNotString
  | loneSurrogate
  | trailingComma
  | trailingCharacters
  | cutEscape
  | tooDeep
  deriving DecidableEq, Repr

namespace JsonFault

def message : JsonFault → String
  | .endInList => "EOF while parsing a list"
  | .endInObject => "EOF while parsing an object"
  | .endInString => "EOF while parsing a string"
  | .endInValue => "EOF while parsing a value"
  | .expectedColon => "expected `:`"
  | .expectedListEnd => "expected `,` or `]`"
  | .expectedObjectEnd => "expected `,` or `\x7d`"
  | .expectedWord => "expected ident"
  | .expectedValue => "expected value"
  | .badEscape => "invalid escape"
  | .badNumber => "invalid number"
  | .numberOutOfRange => "number out of range"
  | .controlCharacter => "control character (\\u0000-\\u001F) found while parsing a string"
  | .nameNotString => "key must be a string"
  | .loneSurrogate => "lone leading surrogate in hex escape"
  | .trailingComma => "trailing comma"
  | .trailingCharacters => "trailing characters"
  | .cutEscape => "unexpected end of hex escape"
  | .tooDeep => "recursion limit exceeded"

end JsonFault

inductive ReadCause where
  | malformed (fault : JsonFault)
  | mismatch (mismatch : Mismatch)

namespace ReadCause

def message : ReadCause → String
  | .malformed fault => fault.message
  | .mismatch m => m.message

end ReadCause

/-- A failure with the characters left; `ahead` says that the next one is to blame. -/
structure ReadError where
  cause : ReadCause
  rest : List Char
  ahead : Bool

abbrev Reading (α : Type) := Except ReadError (α × List Char)

namespace Json

def failed (fault : JsonFault) (rest : List Char) : Except ReadError α :=
  .error ⟨.malformed fault, rest, false⟩

def failedAhead (fault : JsonFault) (rest : List Char) : Except ReadError α :=
  .error ⟨.malformed fault, rest, true⟩

/-- The blanks between the parts of a JSON text. -/
def isBlank (c : Char) : Bool :=
  c == ' ' || c == '\n' || c == '\t' || c == '\r'

def skipBlanks (cs : List Char) : List Char :=
  cs.dropWhile isBlank

def readWord : List Char → List Char → Except ReadError (List Char)
  | [], cs => .ok cs
  | _ :: _, [] => failed .endInValue []
  | expected :: more, c :: cs =>
      if c = expected then readWord more cs else failed .expectedWord cs

/-! ## Strings -/

def escaped? (c : Char) : Option Char :=
  if c = '"' then some '"'
  else if c = '\\' then some '\\'
  else if c = '/' then some '/'
  else if c = 'b' then some (Char.ofNat 0x08)
  else if c = 'f' then some (Char.ofNat 0x0C)
  else if c = 'n' then some '\n'
  else if c = 'r' then some '\r'
  else if c = 't' then some '\t'
  else none

def isHighSurrogate (code : Nat) : Bool :=
  0xD800 ≤ code && code ≤ 0xDBFF

def isLowSurrogate (code : Nat) : Bool :=
  0xDC00 ≤ code && code ≤ 0xDFFF

/-- The code point that a pair of surrogates stands for. -/
def joinSurrogates (high low : Nat) : Nat :=
  0x10000 + (high - 0xD800) * 0x400 + (low - 0xDC00)

/--
Read up to the closing quote.  `done` holds the characters read so far, the last
one first.
-/
def readString (done : List Char) : List Char → Reading String
  | [] => failed .endInString []
  | '"' :: cs => .ok (String.ofList done.reverse, cs)
  | ['\\'] => failed .endInString []
  | '\\' :: 'u' :: a :: b :: c :: d :: cs =>
      match hexValue? [a, b, c, d] with
      | none => failed .badEscape cs
      | some code =>
          if isLowSurrogate code then failed .loneSurrogate cs
          else if isHighSurrogate code then
            match cs with
            | [] => failed .endInString []
            | ['\\'] => failed .endInString []
            | '\\' :: 'u' :: e :: f :: g :: h :: cs' =>
                match hexValue? [e, f, g, h] with
                | none => failed .badEscape cs'
                | some low =>
                    if isLowSurrogate low then
                      readString (Char.ofNat (joinSurrogates code low) :: done) cs'
                    else failed .loneSurrogate cs'
            | '\\' :: 'u' :: _ => failed .endInString []
            | '\\' :: _ :: cs' => failed .cutEscape cs'
            | _ :: cs' => failed .cutEscape cs'
          else readString (Char.ofNat code :: done) cs
  | '\\' :: 'u' :: _ => failed .endInString []
  | '\\' :: c :: cs =>
      match escaped? c with
      | some e => readString (e :: done) cs
      | none => failed .badEscape cs
  | c :: cs =>
      if c.toNat < 0x20 then failed .controlCharacter cs else readString (c :: done) cs

/-! ## Numbers -/

/-- A numeral: its sign, its digits, and whether it has a point or an exponent. -/
structure NumberText where
  negative : Bool
  whole : List Char
  fraction : Option (List Char)
  exponent : Option Int

/-- Read the whole part, which has no superfluous zero in front. -/
def readWhole : List Char → Reading (List Char)
  | [] => failed .endInValue []
  | c :: cs =>
      if c = '0' then
        match cs with
        | d :: _ => if d.isDigit then failedAhead .badNumber cs else .ok (['0'], cs)
        | [] => .ok (['0'], [])
      else if c.isDigit then .ok (spanDigits (c :: cs))
      else failed .badNumber cs

def readFraction : List Char → Reading (Option (List Char))
  | '.' :: cs =>
      match spanDigits cs with
      | ([], []) => failedAhead .endInValue []
      | ([], rest) => failedAhead .badNumber rest
      | (digits, rest) => .ok (some digits, rest)
  | cs => .ok (none, cs)

def readSign : List Char → Bool × List Char
  | '+' :: cs => (false, cs)
  | '-' :: cs => (true, cs)
  | cs => (false, cs)

def readExponent : List Char → Reading (Option Int)
  | c :: cs =>
      if c = 'e' ∨ c = 'E' then
        let (negative, cs) := readSign cs
        match spanDigits cs with
        | ([], []) => failed .endInValue []
        | ([], _ :: rest) => failed .badNumber rest
        | (digits, rest) =>
            let size : Int := digitsValue digits
            .ok (some (if negative then -size else size), rest)
      else .ok (none, c :: cs)
  | [] => .ok (none, [])

def readNumeral (negative : Bool) (cs : List Char) :
    Except ReadError (NumberText × List Char) := do
  let (whole, cs) ← readWhole cs
  let (fraction, cs) ← readFraction cs
  let (exponent, cs) ← readExponent cs
  return (⟨negative, whole, fraction, exponent⟩, cs)

namespace NumberText

/-- The integer that the numeral writes, if it is kept as one; minus zero is not. -/
def integer? (numeral : NumberText) : Option Int :=
  if numeral.fraction.isSome || numeral.exponent.isSome then none
  else
    let size : Int := digitsValue numeral.whole
    if numeral.negative then
      if 0 < size ∧ leastInteger ≤ -size then some (-size) else none
    else if size ≤ greatestInteger then some size else none

/-- The number nearest to the numeral. -/
def nearest (numeral : NumberText) : Number :=
  let fraction := numeral.fraction.getD []
  Number.ofDecimal numeral.negative (digitsValue (numeral.whole ++ fraction))
    (numeral.exponent.getD 0 - fraction.length)

/-- Read more digits of a natural of 64 bits; those that do not fit are only counted. -/
def readDigits (natural : Nat) : List Char → Nat × Nat
  | [] => (natural, 0)
  | c :: cs =>
      let longer := 10 * natural + digitValue c
      if (longer : Int) ≤ greatestInteger then readDigits longer cs
      else (natural, cs.length + 1)

/-- A natural of 64 bits and the power of ten that it counts for. -/
def decimal (numeral : NumberText) : Nat × Int :=
  let fraction := numeral.fraction.getD []
  let (front, more) := readDigits 0 numeral.whole
  let (digits, left) := readDigits front fraction
  (digits, numeral.exponent.getD 0 - fraction.length + more + left)

/--
The number that the numeral is read as, unless it is out of range.  It is near the
numeral, but need not be the nearest one.
-/
def number? (numeral : NumberText) : Option Number :=
  let (digits, power) := numeral.decimal
  ((Number.ofNat digits).scale? power).map fun n => .ofMagnitude numeral.negative n.magnitude

def json? (numeral : NumberText) : Option Json :=
  match numeral.integer? with
  | some i => some (.integer i)
  | none => numeral.number?.map .decimal

end NumberText

def ofNumeral (numeral : NumberText) (rest : List Char) : Reading Json :=
  match numeral.json? with
  | some json => .ok (json, rest)
  | none => failed .numberOutOfRange rest

def readNumber (negative : Bool) (cs : List Char) : Except ReadError (Json × List Char) := do
  let (numeral, rest) ← readNumeral negative cs
  ofNumeral numeral rest

/-! ## Containers -/

/-- Look for the next item of a list; `first` says that none was read yet. -/
def nextItem (first : Bool) (cs : List Char) : Reading Bool :=
  match skipBlanks cs with
  | [] => failedAhead .endInList []
  | ']' :: rest => .ok (false, rest)
  | c :: rest =>
      if first then .ok (true, c :: rest)
      else if c = ',' then
        match skipBlanks rest with
        | [] => failedAhead .endInValue []
        | ']' :: rest' => failedAhead .trailingComma (']' :: rest')
        | next => .ok (true, next)
      else failedAhead .expectedListEnd (c :: rest)

def nextName (first : Bool) (cs : List Char) : Reading Bool :=
  match skipBlanks cs with
  | [] => failedAhead .endInObject []
  | '\x7d' :: rest => .ok (false, rest)
  | c :: rest =>
      if first then
        if c = '"' then .ok (true, rest) else failedAhead .nameNotString (c :: rest)
      else if c = ',' then
        match skipBlanks rest with
        | [] => failedAhead .endInValue []
        | '"' :: rest' => .ok (true, rest')
        | '\x7d' :: rest' => failedAhead .trailingComma ('\x7d' :: rest')
        | next => failedAhead .nameNotString next
      else failedAhead .expectedObjectEnd (c :: rest)

def readColon (cs : List Char) : Except ReadError (List Char) :=
  match skipBlanks cs with
  | [] => failedAhead .endInObject []
  | ':' :: rest => .ok rest
  | rest => failedAhead .expectedColon rest

/-- Containers nested this deep are refused. -/
def nestingLimit : Nat := 128

mutual

/-- Read a value; `depth` more levels may be opened. -/
def readValue (fuel depth : Nat) (cs : List Char) : Reading Json :=
  match fuel with
  | 0 => failed .tooDeep cs
  | fuel + 1 =>
      match skipBlanks cs with
      | [] => failedAhead .endInValue []
      | c :: rest =>
          if c = 'n' then (readWord ['u', 'l', 'l'] rest).map (.null, ·)
          else if c = 't' then (readWord ['r', 'u', 'e'] rest).map (.bool true, ·)
          else if c = 'f' then (readWord ['a', 'l', 's', 'e'] rest).map (.bool false, ·)
          else if c = '-' then readNumber true rest
          else if c.isDigit then readNumber false (c :: rest)
          else if c = '"' then (readString [] rest).map fun (s, rest) => (.string s, rest)
          else if c = '[' then
            if depth ≤ 1 then failedAhead .tooDeep (c :: rest)
            else readItems fuel (depth - 1) true [] rest
          else if c = '\x7b' then
            if depth ≤ 1 then failedAhead .tooDeep (c :: rest)
            else readFields fuel (depth - 1) true [] rest
          else failedAhead .expectedValue (c :: rest)

def readItems (fuel depth : Nat) (first : Bool) (done : List Json) (cs : List Char) :
    Reading Json :=
  match fuel with
  | 0 => failed .tooDeep cs
  | fuel + 1 =>
      match nextItem first cs with
      | .error e => .error e
      | .ok (false, rest) => .ok (.array done.reverse, rest)
      | .ok (true, rest) =>
          match readValue fuel depth rest with
          | .error e => .error e
          | .ok (item, rest) => readItems fuel depth false (item :: done) rest

def readFields (fuel depth : Nat) (first : Bool) (done : List (String × Json)) (cs : List Char) :
    Reading Json :=
  match fuel with
  | 0 => failed .tooDeep cs
  | fuel + 1 =>
      match nextName first cs with
      | .error e => .error e
      | .ok (false, rest) => .ok (.object done, rest)
      | .ok (true, rest) =>
          match readString [] rest with
          | .error e => .error e
          | .ok (name, rest) =>
              match readColon rest with
              | .error e => .error e
              | .ok rest =>
                  match readValue fuel depth rest with
                  | .error e => .error e
                  | .ok (value, rest) =>
                      readFields fuel depth false (Keyed.insert name value done) rest

end

def readEnd (cs : List Char) : Except ReadError Unit :=
  match skipBlanks cs with
  | [] => .ok ()
  | rest => failedAhead .trailingCharacters rest

def readWholeText (cs : List Char) : Except ReadError Json := do
  let (json, rest) ← readValue (2 * cs.length + 2) nestingLimit cs
  readEnd rest
  return json

end Json

/-! ## Places in a text -/

structure JsonError where
  cause : ReadCause
  line : Nat
  column : Nat

namespace JsonError

/-- Move a line and a column past a character; columns count encoded bytes. -/
def advance (place : Nat × Nat) (c : Char) : Nat × Nat :=
  if c = '\n' then (place.1 + 1, 0) else (place.1, place.2 + c.utf8Size)

def locate (text : List Char) (e : ReadError) : JsonError :=
  let place := (text.take (text.length - e.rest.length)).foldl advance (1, 0)
  let place :=
    match e.ahead, e.rest with
    | true, c :: _ => if c = '\n' then (place.1 + 1, 0) else (place.1, place.2 + 1)
    | _, _ => place
  ⟨e.cause, place.1, place.2⟩

def message (e : JsonError) : String :=
  e.cause.message ++ " at line " ++ toString e.line ++ " column " ++ toString e.column

end JsonError

def Json.ofText (text : String) : Except JsonError Json :=
  (Json.readWholeText text.toList).mapError (JsonError.locate text.toList)

end RecordFilter
