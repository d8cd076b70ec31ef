import RecordFilter.Operator.Vocabulary
import RecordFilter.Time.Reader

/-!
# Operators on points in time

The value is a date or a string that is read as one.  A window is given by two
bounds, both of which belong to it; a lone bound opens a window that ends now.
-/

namespace RecordFilter

inductive DateOperator where
  | after
  | afterOrEquals
  | before
  | beforeOrEquals
  | between
  | notBetween
  | equals
  | notEquals
  | isWeekday
  | isWeekend
  deriving DecidableEq, Repr

instance : Vocabulary DateOperator where
  all := [.after, .afterOrEquals, .before, .beforeOrEquals, .between, .notBetween, .equals,
    .notEquals, .isWeekday, .isWeekend]
  name
    | .after => "AFTER"
    | .afterOrEquals => "AFTER-OR-EQUALS"
    | .before => "BEFORE"
    | .beforeOrEquals => "BEFORE-OR-EQUALS"
    | .between => "BETWEEN"
    | .notBetween => "NOT-BETWEEN"
    | .equals => "EQUALS"
    | .notEquals => "NOT-EQUALS"
    | .isWeekday => "IS-WEEKDAY"
    | .isWeekend => "IS-WEEKEND"
  otherName? _ := none

def Value.instant? : Value → Option Instant
  | .date t => some t
  | .string s => Instant.ofText? s
  | _ => none

/-- The first and the last instant of the window that an operand describes. -/
def window? (now : Instant) (operand : Value) : Option (Instant × Instant) :=
  match operand with
  | .array [first, last] => do return (← first.instant?, ← last.instant?)
  | .array [first] => do return (← first.instant?, now)
  | .array _ => none
  | first => do return (← first.instant?, now)

def DateOperator.holdsOfInstant (op : DateOperator) (now t : Instant) (operand : Value) : Bool :=
  match op with
  | .after => operand.instant?.any fun target => target.before t
  | .afterOrEquals => operand.instant?.any fun target => target.notAfter t
  | .before => operand.instant?.any fun target => t.before target
  | .beforeOrEquals => operand.instant?.any fun target => t.notAfter target
  | .between =>
      (window? now operand).any fun (first, last) => first.notAfter t && t.notAfter last
  | .notBetween =>
      (window? now operand).any fun (first, last) => t.before first || last.before t
  | .equals => operand.instant?.any (t == ·)
  | .notEquals => operand.instant?.any (t != ·)
  | .isWeekday => !t.isWeekend
  | .isWeekend => t.isWeekend

def DateOperator.holds (op : DateOperator) (now : Instant) (v operand : Value) : Bool :=
  v.instant?.any fun t => op.holdsOfInstant now t operand

end RecordFilter
