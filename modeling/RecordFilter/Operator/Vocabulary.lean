import RecordFilter.Value.Basic

/-!
# Operator names

Operators are known by name.  Some have a second name, which is understood but
never written.

Comparisons recur in several families: of numbers with numbers, and of the sizes
of collections with numbers.
-/

namespace RecordFilter

class Vocabulary (α : Type) where
  /-- All operators in the order in which they are listed. -/
  all : List α
  name : α → String
  /-- A second name that is understood as well. -/
  otherName? : α → Option String

namespace Vocabulary

variable {α : Type} [Vocabulary α]

def isNamed (text : String) (op : α) : Bool :=
  name op == text || otherName? op == some text

def ofName? (text : String) : Option α :=
  all.find? (isNamed text)

variable (α) in
def names : List String :=
  (all : List α).map name

end Vocabulary

/-! ## Comparisons -/

inductive Comparison where
  | equals
  | greater
  | greaterOrEquals
  | less
  | lessOrEquals
  deriving DecidableEq, Repr

namespace Comparison

def name : Comparison → String
  | .equals => "EQUALS"
  | .greater => "GREATER"
  | .greaterOrEquals => "GREATER-OR-EQUALS"
  | .less => "LESS"
  | .lessOrEquals => "LESS-OR-EQUALS"

/-- A shorter name that leaves out the "or". -/
def otherName? : Comparison → Option String
  | .greaterOrEquals => some "GREATER-EQUALS"
  | .lessOrEquals => some "LESS-EQUALS"
  | _ => none

/-- Whether the comparison holds of two numbers; nothing holds of a NaN. -/
def holds (comparison : Comparison) (a b : Number) : Bool :=
  match comparison with
  | .equals => a.equals b
  | .greater => b.less a
  | .greaterOrEquals => b.atMost a
  | .less => a.less b
  | .lessOrEquals => a.atMost b

def holdsOfSize (comparison : Comparison) (size : Nat) (operand : Value) : Bool :=
  match operand with
  | .number n => comparison.holds (.ofNat size) n
  | _ => false

def sizeName (comparison : Comparison) : String :=
  "SIZE-" ++ comparison.name

def otherSizeName? (comparison : Comparison) : Option String :=
  comparison.otherName?.map ("SIZE-" ++ ·)

end Comparison
end RecordFilter
