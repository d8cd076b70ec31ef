/-!
# Calendar days

Days of the proleptic Gregorian calendar are numbered from the first of January
1970.  The count goes by eras of four hundred years, each of 146097 days, and by
years that begin in March, so that a leap day is the last day of its year.
-/

namespace RecordFilter

structure CalendarDay where
  year : Int
  month : Nat
  day : Nat
  deriving DecidableEq, Repr

namespace CalendarDay

def isLeapYear (year : Int) : Bool :=
  year % 4 == 0 && (year % 100 != 0 || year % 400 == 0)

def daysInMonth (year : Int) (month : Nat) : Nat :=
  if month = 2 then if isLeapYear year then 29 else 28
  else if month = 4 ∨ month = 6 ∨ month = 9 ∨ month = 11 then 30
  else 31

/-- The years that days are kept for. -/
def firstYear : Int := -262143
def lastYear : Int := 262142

def isValid (d : CalendarDay) : Bool :=
  firstYear ≤ d.year && d.year ≤ lastYear && 1 ≤ d.month && d.month ≤ 12 && 1 ≤ d.day &&
    d.day ≤ daysInMonth d.year d.month

/-- The number of the day, counted from the first of January 1970. -/
def number (d : CalendarDay) : Int :=
  let marchYear : Int := if d.month ≤ 2 then d.year - 1 else d.year
  let era := marchYear / 400
  let yearOfEra := marchYear % 400
  let marchMonth : Nat := (d.month + 9) % 12
  let dayOfYear : Nat := (153 * marchMonth + 2) / 5 + d.day - 1
  let dayOfEra := yearOfEra * 365 + yearOfEra / 4 - yearOfEra / 100 + dayOfYear
  era * 146097 + dayOfEra - 719468

def ofNumber (n : Int) : CalendarDay :=
  let shifted := n + 719468
  let era := shifted / 146097
  let dayOfEra : Nat := (shifted % 146097).toNat
  let yearOfEra := (dayOfEra - dayOfEra / 1460 + dayOfEra / 36524 - dayOfEra / 146096) / 365
  let dayOfYear := dayOfEra - (365 * yearOfEra + yearOfEra / 4 - yearOfEra / 100)
  let marchMonth := (5 * dayOfYear + 2) / 153
  let month := if marchMonth < 10 then marchMonth + 3 else marchMonth - 9
  let year := era * 400 + yearOfEra
  ⟨if month ≤ 2 then year + 1 else year, month, dayOfYear - (153 * marchMonth + 2) / 5 + 1⟩

def weekday (number : Int) : Nat :=
  ((number + 4) % 7).toNat

def isWeekend (number : Int) : Bool :=
  weekday number == 0 || weekday number == 6

end CalendarDay
end RecordFilter
