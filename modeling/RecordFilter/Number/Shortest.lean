import RecordFilter.Number.Basic

/-!
# Shortest decimals

Of all decimals that read back as a given number, the shortest is the one on the
coarsest grid of powers of ten, and on that grid the one nearest to the number.
Where two are equally near, a choice has to be made.

A decimal reads back as the number if it lies in the interval of reals that round to
it; the ends belong to the interval exactly when the significand is even.  A number
of the finite range always has a decimal of at most seventeen digits in its interval.

All of this is exact arithmetic on naturals: with `2 ^ (exponent - 2)` as the
unit, the number and the ends of its interval are whole.
-/

namespace RecordFilter

/-- Which of two equally near decimals stands for a number. -/
inductive Tie where
  | larger
  /-- The one with an even last digit. -/
  | even
  deriving DecidableEq, Repr

def Tie.choose (tie : Tie) (below : Nat) : Nat :=
  match tie with
  | .larger => below + 1
  | .even => below + below % 2

namespace Shortest

/-- The interval that rounds to a number, in quarters of its last place. -/
structure Interval where
  low : Nat
  centre : Nat
  high : Nat
  closed : Bool

/--
The interval of `significand * 2 ^ exponent`.  Just above a power of two the
lower neighbour is only half as far away.
-/
def interval (significand : Nat) (exponent : Int) : Interval where
  low := if significand = Number.leadingBit ∧ -1074 < exponent then 4 * significand - 1
    else 4 * significand - 2
  centre := 4 * significand
  high := 4 * significand + 2
  closed := significand % 2 == 0

/-- The factors that bring the unit `2 ^ binary` and the grid `10 ^ decimal` to one scale. -/
def scales (binary decimal : Int) : Nat × Nat :=
  (tenTo (-decimal).toNat <<< binary.toNat, tenTo decimal.toNat <<< (-binary).toNat)

def accepts (i : Interval) (binary decimal : Int) (candidate : Nat) : Bool :=
  let (unit, grid) := scales binary decimal
  if i.closed then
    decide (i.low * unit ≤ candidate * grid) && decide (candidate * grid ≤ i.high * unit)
  else
    decide (i.low * unit < candidate * grid) && decide (candidate * grid < i.high * unit)

/-- The point of the grid `10 ^ decimal` that stands for the number, if there is one. -/
def onGrid? (tie : Tie) (i : Interval) (binary decimal : Int) : Option Nat :=
  let (unit, grid) := scales binary decimal
  let below := i.centre * unit / grid
  let above := below + 1
  match accepts i binary decimal below, accepts i binary decimal above with
  | true, true =>
      match compare (2 * (i.centre * unit)) ((below + above) * grid) with
      | .lt => some below
      | .eq => some (tie.choose below)
      | .gt => some above
  | true, false => some below
  | false, true => some above
  | false, false => none

/-- Refine the grid until a point of it stands for the number. -/
def refine (tie : Tie) (i : Interval) (binary : Int) : Nat → Int → Nat × Int
  | 0, decimal => (0, decimal)
  | steps + 1, decimal =>
      match onGrid? tie i binary decimal with
      | some digits => (digits, decimal)
      | none => refine tie i binary steps (decimal - 1)

/-- A power of ten above `significand * 2 ^ exponent`. -/
def ceiling (significand : Nat) (exponent : Int) : Int :=
  ((significand.log2 : Int) + exponent + 1) * 30103 / 100000 + 1

end Shortest

/--
The shortest decimal of a finite nonzero number, as digits and a power of ten;
the sign is left out.  The steps suffice for a grid of seventeen digits and more.
-/
def Number.shortest (tie : Tie) (n : Number) : Nat × Int :=
  Shortest.refine tie (Shortest.interval n.significand n.exponent) (n.exponent - 2) 24
    (Shortest.ceiling n.significand n.exponent)

end RecordFilter
