import RecordFilter.Text.Digits
import RecordFilter.Text.Space
import RecordFilter.Time.Instant

/-!
# Reading instants

Two families of written forms are read.  The strict form has fields of fixed
width and a zone.  The loose forms have no zone and count as universal time;
their fields may be shorter, blanks may stand in front of a number, and the time
of day may be cut short or missing.
-/

namespace RecordFilter

namespace InstantText

def number (least most : Nat) (cs : List Char) : Option (Nat × List Char) :=
  let digits := (cs.take most).takeWhile Char.isDigit
  if digits.length < least then none
  else some (digitsValue digits, cs.drop digits.length)

/-- Read one given character. -/
def mark (expected : Char) : List Char → Option (List Char)
  | c :: cs => if c = expected then some cs else none
  | [] => none

/-- Read the digits of a part of a second; those past the ninth do not count. -/
def nanos (cs : List Char) : Option (Nat × List Char) :=
  let (digits, rest) := spanDigits cs
  if digits.isEmpty then none
  else
    let counted := digits.take 9
    some (digitsValue counted * tenTo (9 - counted.length), rest)

/-- Read a part of a second, if there is one. -/
def fraction : List Char → Option (Nat × List Char)
  | '.' :: cs => nanos cs
  | cs => some (0, cs)

/-- The seconds and nanoseconds of a time of day, if there is such a time. -/
def timeOfDay? (hour minute second nanos : Nat) : Option (Nat × Nat) :=
  if 23 < hour ∨ 59 < minute ∨ 60 < second then none
  else if second = 60 then
    some (hour * 3600 + minute * 60 + 59, Instant.nanosPerSecond + nanos)
  else some (hour * 3600 + minute * 60 + second, nanos)

/-- The instant at a time of day, `offset` seconds ahead of universal time. -/
def instant? (day : CalendarDay) (time : Nat × Nat) (offset : Int) : Option Instant :=
  if day.isValid then some ⟨day.number * 86400 + time.1 - offset, time.2⟩ else none

/-! ## The strict form -/

/-- Read the sign of a zone; a typographic minus is a minus. -/
def zoneSign : List Char → Option (Bool × List Char)
  | '+' :: cs => some (false, cs)
  | '-' :: cs => some (true, cs)
  | '−' :: cs => some (true, cs)
  | _ => none

/-- Read a zone as seconds ahead of universal time; it is less than a day. -/
def zone : List Char → Option (Int × List Char)
  | 'Z' :: cs => some (0, cs)
  | 'z' :: cs => some (0, cs)
  | cs => do
      let (negative, cs) ← zoneSign cs
      let (hours, cs) ← number 2 2 cs
      let cs ← mark ':' cs
      let (minutes, cs) ← number 2 2 cs
      if 23 < hours ∨ 59 < minutes then none
      else
        let size : Int := hours * 3600 + minutes * 60
        return (if negative then -size else size, cs)

def dateEnd : List Char → Option (List Char)
  | 'T' :: cs => some cs
  | 't' :: cs => some cs
  | ' ' :: cs => some cs
  | _ => none

def strict? (cs : List Char) : Option Instant := do
  let (year, cs) ← number 4 4 cs
  let cs ← mark '-' cs
  let (month, cs) ← number 2 2 cs
  let cs ← mark '-' cs
  let (day, cs) ← number 2 2 cs
  let cs ← dateEnd cs
  let (hour, cs) ← number 2 2 cs
  let cs ← mark ':' cs
  let (minute, cs) ← number 2 2 cs
  let cs ← mark ':' cs
  let (second, cs) ← number 2 2 cs
  let (nanos, cs) ← fraction cs
  let (offset, cs) ← zone cs
  guard cs.isEmpty
  let time ← timeOfDay? hour minute second nanos
  instant? ⟨year, month, day⟩ time offset

/-! ## The loose forms -/

def looseNumber (most : Nat) (cs : List Char) : Option (Nat × List Char) :=
  number 1 most (trimStart cs)

/-- Read a year; only with a sign may it have more than four digits. -/
def looseYear (cs : List Char) : Option (Int × List Char) :=
  match trimStart cs with
  | '-' :: cs => (number 1 cs.length cs).map fun (year, rest) => (-(year : Int), rest)
  | '+' :: cs => (number 1 cs.length cs).map fun (year, rest) => ((year : Int), rest)
  | cs => (number 1 4 cs).map fun (year, rest) => ((year : Int), rest)

def looseDay (cs : List Char) : Option (CalendarDay × List Char) := do
  let (year, cs) ← looseYear cs
  let cs ← mark '-' cs
  let (month, cs) ← looseNumber 2 cs
  let cs ← mark '-' cs
  let (day, cs) ← looseNumber 2 cs
  return (⟨year, month, day⟩, cs)

def hourAndMinute (cs : List Char) : Option ((Nat × Nat) × List Char) := do
  let (hour, cs) ← looseNumber 2 cs
  let cs ← mark ':' cs
  let (minute, cs) ← looseNumber 2 cs
  return ((hour, minute), cs)

def finishTime (day : CalendarDay) (cs : List Char) : Option Instant := do
  let ((hour, minute), cs) ← hourAndMinute cs
  let cs ← mark ':' cs
  let (second, cs) ← looseNumber 2 cs
  let (nanos, cs) ← fraction cs
  guard cs.isEmpty
  let time ← timeOfDay? hour minute second nanos
  instant? day time 0

/-- Read hours and minutes after a date and end there. -/
def finishMinutes (day : CalendarDay) (cs : List Char) : Option Instant := do
  let ((hour, minute), cs) ← hourAndMinute cs
  guard cs.isEmpty
  let time ← timeOfDay? hour minute 0 0
  instant? day time 0

def loose? (cs : List Char) : Option Instant := do
  let (day, rest) ← looseDay cs
  ((mark 'T' rest).bind (finishTime day)).or
    ((finishTime day (trimStart rest)).or
      (((mark 'T' rest).bind (finishMinutes day)).or
        (if rest.isEmpty then instant? day (0, 0) 0 else none)))

end InstantText

def Instant.ofText? (text : String) : Option Instant :=
  let cs := trim text.toList
  (InstantText.strict? cs).or (InstantText.loose? cs)

end RecordFilter
