import RecordFilter.Keyed
import RecordFilter.Number.Basic

/-!
# JSON values

A number written without a point or an exponent is an integer as long as it fits
into 64 bits, signed or unsigned; every other number is a decimal.  The fields of
an object are in ascending order of their names.
-/

namespace RecordFilter

inductive Json where
  | null
  | bool (b : Bool)
  | integer (i : Int)
  | decimal (n : Number)
  | string (s : String)
  | array (items : List Json)
  | object (fields : List (String × Json))
  deriving Inhabited

namespace Json

def leastInteger : Int := -0x8000000000000000
def greatestInteger : Int := 0xFFFFFFFFFFFFFFFF

def ofNat (n : Nat) : Json := .integer n

/-- An object with the last value of each repeated name. -/
def ofFields (fields : List (String × Json)) : Json :=
  .object (Keyed.ofList fields)

def field? : Json → String → Option Json
  | .object fields, name => fields.lookup name
  | _, _ => none

end Json
end RecordFilter
