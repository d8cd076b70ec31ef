import RecordFilter.Number.Shortest

/-!
# Numerals

Three written forms of numbers take the shortest digits and differ in style.
A style says which of two equally near decimals is taken, for which exponents the
digits are written in place, whether a whole number keeps a decimal point, and how
everything else is spelt.
-/

namespace RecordFilter

structure NumeralStyle where
  tie : Tie
  /-- The range of exponents of the leading digit that are written in place. -/
  inPlace : Int → Bool
  /-- What follows a whole number written in place. -/
  wholeEnd : List Char
  /-- What precedes a positive exponent. -/
  exponentSign : List Char
  infinity : List Char
  notANumber : List Char

namespace NumeralStyle

/-- Plain text: digits always in place, whole numbers without a point. -/
def plain : NumeralStyle where
  tie := .larger
  inPlace _ := true
  wholeEnd := []
  exponentSign := []
  infinity := "Infinity".toList
  notANumber := "NaN".toList

/-- Inside JSON: sixteen places before the point, five after it. -/
def json : NumeralStyle where
  tie := .even
  inPlace exponent := -5 ≤ exponent && exponent < 16
  wholeEnd := ".0".toList
  exponentSign := ['+']
  infinity := "null".toList
  notANumber := "null".toList

/-- For inspection: sixteen places before the point, four after it. -/
def inspection : NumeralStyle where
  tie := .larger
  inPlace exponent := -4 ≤ exponent && exponent < 16
  wholeEnd := ".0".toList
  exponentSign := []
  infinity := "inf".toList
  notANumber := "NaN".toList

end NumeralStyle

def natDigits (n : Nat) : List Char :=
  Nat.toDigits 10 n

def intDigits (i : Int) : List Char :=
  if i < 0 then '-' :: natDigits i.natAbs else natDigits i.natAbs

namespace Numeral

/-- Write `digits * 10 ^ power` without an exponent. -/
def inPlace (style : NumeralStyle) (digits : List Char) (power : Int) : List Char :=
  if 0 ≤ power then
    digits ++ List.replicate power.toNat '0' ++ style.wholeEnd
  else
    let places := (-power).toNat
    if places < digits.length then
      digits.take (digits.length - places) ++ '.' :: digits.drop (digits.length - places)
    else
      '0' :: '.' :: List.replicate (places - digits.length) '0' ++ digits

def withExponent (style : NumeralStyle) (digits : List Char) (exponent : Int) : List Char :=
  let sign := if 0 ≤ exponent then style.exponentSign else []
  (match digits with
    | first :: second :: rest => first :: '.' :: second :: rest
    | single => single) ++ 'e' :: sign ++ intDigits exponent

def magnitude (style : NumeralStyle) (n : Number) : List Char :=
  if n.isZero then '0' :: style.wholeEnd
  else
    let (significant, power) := n.shortest style.tie
    let digits := natDigits significant
    let exponent := power + digits.length - 1
    if style.inPlace exponent then inPlace style digits power
    else withExponent style digits exponent

end Numeral

def Number.write (style : NumeralStyle) (n : Number) : List Char :=
  if n.isNaN then style.notANumber
  else
    let unsigned := if n.isInfinite then style.infinity else Numeral.magnitude style n
    if n.isNegative then '-' :: unsigned else unsigned

/-- A number with a fixed count of decimal places, ties going to the even neighbour. -/
def Number.writeFixed (places : Nat) (n : Number) : List Char :=
  if infiniteMagnitude ≤ n.magnitude then n.write .inspection
  else
    let (num, den) := scaled (n.significand * tenTo places) 1 n.exponent
    let whole := roundQuotient num den
    let fraction := natDigits (whole % tenTo places)
    (if n.isNegative then ['-'] else []) ++ natDigits (whole / tenTo places) ++
      if places = 0 then []
      else '.' :: List.replicate (places - fraction.length) '0' ++ fraction

end RecordFilter
