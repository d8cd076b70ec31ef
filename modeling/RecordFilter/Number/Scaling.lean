import RecordFilter.Number.Basic

/-!
# Scaling by powers of ten

The product and the quotient of two finite numbers are rounded once.  To scale by a
power of ten is to multiply by the number nearest to the power, or to divide by it,
so what comes out may be off in its last place.  Powers below the range are divided
by in rounds.
-/

namespace RecordFilter
namespace Number

def times (a b : Number) : Number :=
  let (num, den) := scaled (a.significand * b.significand) 1 (a.exponent + b.exponent)
  ofQuotient (a.isNegative != b.isNegative) num den

def dividedBy (a b : Number) : Number :=
  let (num, den) := scaled a.significand b.significand (a.exponent - b.exponent)
  ofQuotient (a.isNegative != b.isNegative) num den

/-- The places of the greatest power of ten in the range. -/
def mostPlaces : Nat := 308

def powerOfTen (places : Nat) : Number :=
  ofNat (tenTo places)

/-- Divide by the greatest power of ten so many times, or until nothing is left. -/
def sink (n : Number) : Nat → Number
  | 0 => n
  | rounds + 1 => if n.isZero then n else (n.dividedBy (powerOfTen mostPlaces)).sink rounds

def lower (n : Number) (places : Nat) : Number :=
  let rounds := (places - 1) / mostPlaces
  (n.sink rounds).dividedBy (powerOfTen (places - rounds * mostPlaces))

/-- Scale by a power of ten, unless that leads out of the range. -/
def scale? (n : Number) (power : Int) : Option Number :=
  if n.isZero then some n
  else if mostPlaces < power then none
  else
    let result := if 0 ≤ power then n.times (powerOfTen power.toNat) else n.lower (-power).toNat
    if result.isInfinite then none else some result

end Number
end RecordFilter
