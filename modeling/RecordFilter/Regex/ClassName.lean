import RecordFilter.Regex.CharSet
import RecordFilter.Text.Split

/-!
# Names of character classes

A class may be called by the name of a property, or by a property and a value of
it.  How a name is spelled matters little: capitals, blanks, dashes, underscores
and a leading "is" are passed over.  ASCII classes are called by their exact name.
-/

namespace RecordFilter

namespace ClassName

/-- A name without blanks, dashes, underscores, capitals and a leading "is". -/
def plain (name : List Char) : String :=
  let lower := name.map Char.toLower
  let isMarked := lower.take 2 == ['i', 's']
  let bare := (if isMarked then lower.drop 2 else lower).filter fun c =>
    c != ' ' && c != '_' && c != '-' && c.toNat < 0x80
  if isMarked && bare == ['c'] then "isc" else String.ofList bare

def category? (name : String) : Option CharSet :=
  if name == "any" then some .any
  else if name == "assigned" then some (.compl (.named (.category .unassigned)))
  else if name == "ascii" then some (.range 0 0x7F)
  else (Category.ofName? name).map fun kinds => .ofList (kinds.map fun kind =>
    .named (.category kind))

/-- The characters with a named property, category or script, in this order. -/
def named? (name : String) : Option CharSet :=
  ((CharProperty.ofName? name).map fun kind => .named (.property kind)).or
    ((category? name).or ((Script.position? name).map fun i => .named (.script i)))

def valued? (property value : String) : Option CharSet :=
  if property == "gc" || property == "generalcategory" then category? value
  else if property == "sc" || property == "script" then
    (Script.position? value).map fun i => .named (.script i)
  else if property == "scx" || property == "scriptextensions" then
    (Script.position? value).map fun i => .named (.usedInScript i)
  else if property == "age" then (Age.position? value).map fun i => .named (.age i)
  else if property == "gcb" || property == "graphemeclusterbreak" then
    (ClusterBreak.ofName? value).map fun kind => .named (.clusterBreak kind)
  else if property == "wb" || property == "wordbreak" then
    (WordBreak.ofName? value).map fun kind => .named (.wordBreak kind)
  else if property == "sb" || property == "sentencebreak" then
    (SentenceBreak.ofName? value).map fun kind => .named (.sentenceBreak kind)
  else none

/--
What a text calls for: the characters with a property, or those for which a property
has a value, or has it not.  The Boolean tells that the value is excluded.
-/
def query? (text : List Char) : Option (Bool × CharSet) :=
  match splitOnce? ['!', '='] text, splitOnce? [':'] text, splitOnce? ['='] text with
  | some (name, value), _, _ => (valued? (plain name) (plain value)).map (true, ·)
  | none, some (name, value), _ => (valued? (plain name) (plain value)).map (false, ·)
  | none, none, some (name, value) => (valued? (plain name) (plain value)).map (false, ·)
  | none, none, none => (named? (plain text)).map (false, ·)

def asciiSpace : CharSet :=
  .union (.range 0x9 0xD) (.single ' ')

def asciiLower : CharSet :=
  .range 0x61 0x7A

def asciiUpper : CharSet :=
  .range 0x41 0x5A

def asciiDigit : CharSet :=
  .range 0x30 0x39

def asciiAlphanumeric : CharSet :=
  .union asciiDigit (.union asciiUpper asciiLower)

def asciiWord : CharSet :=
  .union asciiAlphanumeric (.single '_')

def ascii? (name : String) : Option CharSet :=
  if name == "alnum" then some asciiAlphanumeric
  else if name == "alpha" then some (.union asciiUpper asciiLower)
  else if name == "ascii" then some (.range 0 0x7F)
  else if name == "blank" then some (.union (.single '\t') (.single ' '))
  else if name == "cntrl" then some (.union (.range 0 0x1F) (.range 0x7F 0x7F))
  else if name == "digit" then some asciiDigit
  else if name == "graph" then some (.range 0x21 0x7E)
  else if name == "lower" then some asciiLower
  else if name == "print" then some (.range 0x20 0x7E)
  else if name == "punct" then some (.diff (.range 0x21 0x7E) asciiAlphanumeric)
  else if name == "space" then some asciiSpace
  else if name == "upper" then some asciiUpper
  else if name == "word" then some asciiWord
  else if name == "xdigit" then
    some (.union asciiDigit (.union (.range 0x41 0x46) (.range 0x61 0x66)))
  else none

end ClassName
end RecordFilter
