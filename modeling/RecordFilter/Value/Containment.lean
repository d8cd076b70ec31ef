import RecordFilter.Value.Equality

/-!
# Sub-structure

An object contains a pattern if it has every field of the pattern with a value
that contains the pattern's value.  An array contains a pattern if every item of
the pattern is contained in one of its items.  Everything else is compared by deep
equality.
-/

namespace RecordFilter

namespace Value

mutual

/-- Whether a pattern is a sub-structure of a value. -/
def contains (v : Value) : Value → Bool
  | .object wanted =>
      match v with
      | .object fields => containsFields fields wanted
      | _ => false
  | .array wanted =>
      match v with
      | .array items => containsItems items wanted
      | _ => false
  | pattern => v == pattern
termination_by structural pattern => pattern

def containsItems (items : List Value) : List Value → Bool
  | [] => true
  | wanted :: rest => items.any (contains · wanted) && containsItems items rest
termination_by structural wanted => wanted

def containsField (fields : List (String × Value)) : String × Value → Bool
  | (name, wanted) => fields.any fun field => field.1 == name && contains field.2 wanted
termination_by structural wanted => wanted

def containsFields (fields : List (String × Value)) : List (String × Value) → Bool
  | [] => true
  | wanted :: rest => containsField fields wanted && containsFields fields rest
termination_by structural wanted => wanted

end

end Value
end RecordFilter
