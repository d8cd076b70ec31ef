import RecordFilter.Number.Numeral
import RecordFilter.Time.Calendar

/-!
# Instants

An instant is a count of seconds from the start of 1970 and a part of a second in
nanoseconds.  A leap second belongs to the second before it and shows as a part
of a thousand million nanoseconds or more, so that it comes after everything in
that second and before the next one.
-/

namespace RecordFilter

structure Instant where
  second : Int
  nanos : Nat
  deriving DecidableEq, Repr

namespace Instant

def nanosPerSecond : Nat := 1000000000

def compare (a b : Instant) : Ordering :=
  (Ord.compare a.second b.second).then (Ord.compare a.nanos b.nanos)

def before (a b : Instant) : Bool :=
  a.compare b == .lt

def notAfter (a b : Instant) : Bool :=
  a.compare b != .gt

/-- The number of the calendar day. -/
def dayNumber (t : Instant) : Int :=
  t.second / 86400

def isWeekend (t : Instant) : Bool :=
  CalendarDay.isWeekend t.dayNumber

/-! ## Written form -/

def padded (width n : Nat) : List Char :=
  let digits := natDigits n
  List.replicate (width - digits.length) '0' ++ digits

/-- A year has four digits; beyond them it has a sign. -/
def writeYear (year : Int) : List Char :=
  if 0 ≤ year ∧ year ≤ 9999 then padded 4 year.natAbs
  else (if year < 0 then '-' else '+') :: padded 4 year.natAbs

def writeDay (d : CalendarDay) : List Char :=
  writeYear d.year ++ '-' :: padded 2 d.month ++ '-' :: padded 2 d.day

inductive Precision where
  | milliseconds
  | nanoseconds
  | asNeeded

def writeFraction (precision : Precision) (nanos : Nat) : List Char :=
  match precision with
  | .milliseconds => '.' :: padded 3 (nanos / 1000000)
  | .nanoseconds => '.' :: padded 9 nanos
  | .asNeeded =>
      if nanos = 0 then []
      else if nanos % 1000000 = 0 then '.' :: padded 3 (nanos / 1000000)
      else if nanos % 1000 = 0 then '.' :: padded 6 (nanos / 1000)
      else '.' :: padded 9 nanos

/-- The instant in universal time; a leap second is the sixtieth of its minute. -/
def write (precision : Precision) (t : Instant) : List Char :=
  let ofDay := (t.second % 86400).toNat
  let leap := nanosPerSecond ≤ t.nanos
  let second := ofDay % 60 + if leap then 1 else 0
  let nanos := if leap then t.nanos - nanosPerSecond else t.nanos
  writeDay (CalendarDay.ofNumber t.dayNumber) ++ 'T' :: padded 2 (ofDay / 3600) ++
    ':' :: padded 2 (ofDay / 60 % 60) ++ ':' :: padded 2 second ++
      writeFraction precision nanos ++ ['Z']

end Instant
end RecordFilter
