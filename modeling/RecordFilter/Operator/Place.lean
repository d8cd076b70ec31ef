import RecordFilter.Operator.Vocabulary

/-!
# Operators on places

Places on the globe are given in degrees of latitude and longitude.  The distance
between two of them is the length of the great circle between them, which is
computed in machine arithmetic by the haversine formula.
-/

namespace RecordFilter

inductive GeoOperator where
  | inRadius
  | notInRadius
  deriving DecidableEq, Repr

instance : Vocabulary GeoOperator where
  all := [.inRadius, .notInRadius]
  name
    | .inRadius => "IN-RADIUS"
    | .notInRadius => "NOT-IN-RADIUS"
  otherName? _ := none

inductive DistanceUnit where
  | kilometers
  | miles
  deriving DecidableEq, Repr

namespace DistanceUnit

def ofName? (name : String) : Option DistanceUnit :=
  if name == "km" || name == "kilometers" || name == "KM" then some .kilometers
  else if name == "mi" || name == "miles" || name == "MI" then some .miles
  else none

def earthRadius : DistanceUnit → Float
  | .kilometers => 6371
  | .miles => 3959

end DistanceUnit

structure GeoPoint where
  lat : Number
  lng : Number

namespace GeoPoint

/-- A pair of numbers, or an object or map with a latitude and a longitude. -/
def ofValue? (v : Value) : Option GeoPoint :=
  match v with
  | .array [lat, lng] => do return ⟨← lat.number?, ← lng.number?⟩
  | .array _ => none
  | v => do
      let lat ← v.get? "lat"
      let lng ← v.get? "lng"
      return ⟨← lat.number?, ← lng.number?⟩

/-- Degrees as a part of the circle of radius one. -/
def radians (degrees : Float) : Float :=
  degrees * (3.14159265358979323846264338327950288 / 180)

def square (x : Float) : Float :=
  x * x

def distance (unit : DistanceUnit) (a b : GeoPoint) : Number :=
  let latA := radians a.lat.toFloat
  let latB := radians b.lat.toFloat
  let latStep := radians (b.lat.toFloat - a.lat.toFloat)
  let lngStep := radians (b.lng.toFloat - a.lng.toFloat)
  let h := square (latStep / 2).sin + latA.cos * latB.cos * square (lngStep / 2).sin
  .ofFloat (unit.earthRadius * (2 * Float.atan2 h.sqrt (1 - h).sqrt))

end GeoPoint

/-- A circle around a place. -/
structure GeoArea where
  center : GeoPoint
  radius : Number
  unit : DistanceUnit

namespace GeoArea

/-- The radius of an area; without one the area is a single place. -/
def radius? (v : Value) : Option Number :=
  match v.get? "radius" with
  | none | some .undefined => some .zero
  | some (.number r) => if Number.zero.atMost r then some r else none
  | some _ => none

def unit? (v : Value) : Option DistanceUnit :=
  match v.get? "unit" with
  | none | some .undefined => some .kilometers
  | some (.string name) => DistanceUnit.ofName? name
  | some _ => none

def ofValue? (v : Value) : Option GeoArea :=
  match v with
  | .object _ | .map _ => do
      return ⟨← GeoPoint.ofValue? v, ← radius? v, ← unit? v⟩
  | _ => none

def distanceTo (area : GeoArea) (place : GeoPoint) : Number :=
  GeoPoint.distance area.unit place area.center

end GeoArea

def GeoOperator.holds (op : GeoOperator) (v operand : Value) : Bool :=
  match GeoPoint.ofValue? v, GeoArea.ofValue? operand with
  | some place, some area =>
      match op with
      | .inRadius => (area.distanceTo place).atMost area.radius
      | .notInRadius => area.radius.less (area.distanceTo place)
  | _, _ => false

end RecordFilter
