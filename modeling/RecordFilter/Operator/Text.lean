import RecordFilter.Operator.Vocabulary
import RecordFilter.Value.Text

/-!
# Operators on text

A value of any kind is tested by its display text, except that undefined and null
have none and never match.
-/

namespace RecordFilter

inductive StringOperator where
  | equals
  | notEquals
  | contains
  | notContains
  | startsWith
  | endsWith
  | matchesRegex
  | notMatchesRegex
  | among
  | notAmong
  | isEmpty
  | isNotEmpty
  deriving DecidableEq, Repr

instance : Vocabulary StringOperator where
  all := [.equals, .notEquals, .contains, .notContains, .startsWith, .endsWith, .matchesRegex,
    .notMatchesRegex, .among, .notAmong, .isEmpty, .isNotEmpty]
  name
    | .equals => "EQUALS"
    | .notEquals => "NOT-EQUALS"
    | .contains => "CONTAINS"
    | .notContains => "NOT-CONTAINS"
    | .startsWith => "STARTS-WITH"
    | .endsWith => "ENDS-WITH"
    | .matchesRegex => "MATCHES-REGEX"
    | .notMatchesRegex => "NOT-MATCHES-REGEX"
    | .among => "IN"
    | .notAmong => "NOT-IN"
    | .isEmpty => "IS-EMPTY"
    | .isNotEmpty => "IS-NOT-EMPTY"
  otherName? _ := none

/-- A pattern, or the pattern that a string describes. -/
def pattern? : Value → Option Pattern
  | .regex p => some p
  | .string source => Pattern.ofText? source
  | _ => none

def strings? (operand : Value) : Option (List String) :=
  operand.array?.bind (·.mapM Value.string?)

def occursIn (part : List Char) : List Char → Bool
  | [] => part.isEmpty
  | c :: rest => part.isPrefixOf (c :: rest) || occursIn part rest

def StringOperator.holdsOfText (op : StringOperator) (text : String) (operand : Value) : Bool :=
  match op with
  | .equals => operand.string?.any (text == ·)
  | .notEquals => operand.string?.any (text != ·)
  | .contains => operand.string?.any fun part => occursIn part.toList text.toList
  | .notContains => operand.string?.any fun part => !occursIn part.toList text.toList
  | .startsWith => operand.string?.any fun part => part.toList.isPrefixOf text.toList
  | .endsWith => operand.string?.any fun part => part.toList.isSuffixOf text.toList
  | .matchesRegex => (pattern? operand).any (·.matchesIn text)
  | .notMatchesRegex => (pattern? operand).any fun p => !p.matchesIn text
  | .among => (strings? operand).any (·.contains text)
  | .notAmong => (strings? operand).any fun list => !list.contains text
  | .isEmpty => text == ""
  | .isNotEmpty => text != ""

def StringOperator.holds (op : StringOperator) (v operand : Value) : Bool :=
  !v.isNil && op.holdsOfText v.display operand

end RecordFilter
