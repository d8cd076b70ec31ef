import RecordFilter.Criterion.Basic

/-!
# Common criteria

Criteria for everyday tests of the value at a path written with dots.
-/

namespace RecordFilter

namespace Criterion

variable {Hook : Type}

def textEquals (path text : String) : Criterion Hook :=
  ofOperator (.string .equals) path (.string text)

def textContains (path text : String) : Criterion Hook :=
  ofOperator (.string .contains) path (.string text)

def numberEquals (path : String) (n : Number) : Criterion Hook :=
  ofOperator (.number (.compare .equals)) path (.number n)

def greaterThan (path : String) (n : Number) : Criterion Hook :=
  ofOperator (.number (.compare .greater)) path (.number n)

def lessThan (path : String) (n : Number) : Criterion Hook :=
  ofOperator (.number (.compare .less)) path (.number n)

/-- The number lies between two bounds or is one of them. -/
def between (path : String) (low high : Number) : Criterion Hook :=
  ofOperator (.number .between) path (.array [.number low, .number high])

def isTrue (path : String) : Criterion Hook :=
  ofOperator (.boolean .is) path (.boolean true)

def isPresent (path : String) : Criterion Hook :=
  ofOperator (.boolean .isNotNil) path .undefined

def includesAny (path : String) (values : List Value) : Criterion Hook :=
  ofOperator (.array .includesAny) path (.array values)

def withinKilometers (path : String) (lat lng radius : Number) : Criterion Hook :=
  ofOperator (.geo .inRadius) path
    (.ofFields [("lat", .number lat), ("lng", .number lng), ("radius", .number radius),
      ("unit", .string "km")])

end Criterion
end RecordFilter
