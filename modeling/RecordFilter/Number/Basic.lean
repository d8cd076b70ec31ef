/-!
# Double-precision numbers

A number is a binary64 word.  Comparison works on the word itself: the magnitude
bits order the finite numbers and the infinities, and the sign bit reverses their order.
Two orders are in use.  Numerical comparison takes both zeros for one number and
leaves NaN unordered; the total order tells all words apart.

Rounding an exact quotient to the nearest number is defined here as well, with
ties going to the even significand.
-/

namespace RecordFilter

def tenTo (n : Nat) : Nat :=
  Nat.pow 10 n

structure Number where
  bits : UInt64
  deriving DecidableEq, Repr

namespace Number

/-! ## Parts of the word -/

/-- The weight of the sign bit. -/
def signBit : Nat :=
  0x8000000000000000

def isNegative (n : Number) : Bool :=
  signBit ≤ n.bits.toNat

def magnitude (n : Number) : Nat :=
  n.bits.toNat % signBit

/-- The magnitude bits of infinity; those of a NaN are larger. -/
def infiniteMagnitude : Nat :=
  0x7FF0000000000000

def isNaN (n : Number) : Bool :=
  infiniteMagnitude < n.magnitude

def isInfinite (n : Number) : Bool :=
  n.magnitude == infiniteMagnitude

def isZero (n : Number) : Bool :=
  n.magnitude == 0

def ofMagnitude (negative : Bool) (magnitude : Nat) : Number :=
  ⟨UInt64.ofNat (magnitude % signBit + if negative then signBit else 0)⟩

def zero : Number := ofMagnitude false 0

def nan : Number := ofMagnitude false 0x7FF8000000000000

def infinity (negative : Bool) : Number := ofMagnitude negative infiniteMagnitude

def neg (n : Number) : Number :=
  ofMagnitude (!n.isNegative) n.magnitude

/-- The weight of the leading bit of a significand in the normal range. -/
def leadingBit : Nat :=
  0x10000000000000

/--
A finite magnitude is `significand * 2 ^ exponent`; the exponent is least for
the numbers below the normal range.
-/
def significand (n : Number) : Nat :=
  if n.magnitude < leadingBit then n.magnitude else leadingBit + n.magnitude % leadingBit

def exponent (n : Number) : Int :=
  if n.magnitude < leadingBit then -1074 else (n.magnitude / leadingBit : Nat) - 1075

/-! ## Comparison -/

/-- The place of a word on the number line, where both zeros are at 0. -/
def position (n : Number) : Int :=
  if n.isNegative then -n.magnitude else n.magnitude

/-- Numerical equality: the zeros are equal and a NaN equals nothing. -/
def equals (a b : Number) : Bool :=
  !a.isNaN && !b.isNaN && a.position == b.position

def less (a b : Number) : Bool :=
  !a.isNaN && !b.isNaN && decide (a.position < b.position)

def atMost (a b : Number) : Bool :=
  !a.isNaN && !b.isNaN && decide (a.position ≤ b.position)

/-- Numerical equality, save that one NaN is the same as any other. -/
def same (a b : Number) : Bool :=
  a.equals b || (a.isNaN && b.isNaN)

/-- The place of a word in the total order, where minus zero is just below zero. -/
def rank (n : Number) : Int :=
  if n.isNegative then -1 - n.magnitude else n.magnitude

/-- The total order of all words. -/
def compare (a b : Number) : Ordering :=
  Ord.compare a.rank b.rank

/-! ## Rounding -/

/-- The quotient of two naturals, rounded to nearest with ties to even. -/
def roundQuotient (num den : Nat) : Nat :=
  let floor := num / den
  let twice := 2 * (num % den)
  if twice < den then floor
  else if den < twice then floor + 1
  else floor + floor % 2

/-- The quotient `num * 2 ^ shift / den` as a fraction of naturals. -/
def scaled (num den : Nat) (shift : Int) : Nat × Nat :=
  if 0 ≤ shift then (num <<< shift.toNat, den) else (num, den <<< (-shift).toNat)

/-- The exponent at which the significand of `num / den` is read off. -/
def quotientExponent (num den : Nat) : Int :=
  let guess : Int := (num.log2 : Int) - den.log2 - 53
  let (scaledNum, scaledDen) := scaled num den (-guess)
  let exponent := if scaledNum / scaledDen < 2 * leadingBit then guess else guess + 1
  max exponent (-1074)

/-- The magnitude bits nearest to `num / den`; quotients past the range become infinite. -/
def roundMagnitude (num den : Nat) : Nat :=
  if num = 0 then 0
  else
    let exponent := quotientExponent num den
    let (scaledNum, scaledDen) := scaled num den (-exponent)
    let bits := (exponent + 1074).toNat * leadingBit + roundQuotient scaledNum scaledDen
    min bits infiniteMagnitude

def ofQuotient (negative : Bool) (num den : Nat) : Number :=
  ofMagnitude negative (roundMagnitude num den)

def ofNat (n : Nat) : Number :=
  ofQuotient false n 1

def ofInt (i : Int) : Number :=
  ofQuotient (decide (i < 0)) i.natAbs 1

/--
The number nearest to `digits * 10 ^ exponent`.  Exponents so large or small
that the digits cannot make up for them are not computed with.
-/
def ofDecimal (negative : Bool) (digits : Nat) (exponent : Int) : Number :=
  let size : Int := digits.log2 / 3 + 1
  if digits = 0 then ofMagnitude negative 0
  else if 400 < exponent then infinity negative
  else if exponent + size < -400 then ofMagnitude negative 0
  else if 0 ≤ exponent then ofQuotient negative (digits * tenTo exponent.toNat) 1
  else ofQuotient negative digits (tenTo (-exponent).toNat)

def toInt? (n : Number) : Option Int :=
  if infiniteMagnitude ≤ n.magnitude then none
  else
    let (num, den) := scaled n.significand 1 n.exponent
    if num % den = 0 then
      some (if n.isNegative then -(num / den : Nat) else (num / den : Nat))
    else none

/-- The machine number of the same word, for arithmetic that has no exact form. -/
def toFloat (n : Number) : Float :=
  Float.ofBits n.bits

def ofFloat (x : Float) : Number :=
  ⟨x.toBits⟩

end Number
end RecordFilter
