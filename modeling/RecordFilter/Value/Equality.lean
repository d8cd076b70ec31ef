import RecordFilter.Value.Basic

/-!
# Deep equality

Arrays are equal item by item and objects field by field.  A set equals another
of the same length in which each of its items occurs; maps compare in the same
way by their entries.  A NaN is equal to a NaN, and minus zero to zero.

The items of a set are looked for with the sides exchanged, so the recursion
carries along whether they are.  For sets without repetition the sides do not
matter.
-/

namespace RecordFilter

namespace Value

mutual

/-- Whether `a` equals `b`, or `b` equals `a` if the sides are exchanged. -/
def agrees (exchanged : Bool) : Value → Value → Bool
  | .undefined, .undefined => true
  | .null, .null => true
  | .boolean a, .boolean b => a == b
  | .number a, .number b => a.same b
  | .string a, .string b => a == b
  | .date a, .date b => a == b
  | .regex a, .regex b => a == b
  | .array as, .array bs => itemsAgree exchanged as bs
  | .set as, .set bs =>
      as.length == bs.length &&
        if exchanged then bs.all (occursAmong false as) else allOccur true as bs
  | .map as, .map bs =>
      as.length == bs.length &&
        if exchanged then bs.all (entryAmong true as) else allEntriesOccur false as bs
  | .object as, .object bs => fieldsAgree exchanged as bs
  | _, _ => false
termination_by structural a => a

def itemsAgree (exchanged : Bool) : List Value → List Value → Bool
  | [], [] => true
  | a :: as, b :: bs => agrees exchanged a b && itemsAgree exchanged as bs
  | _, _ => false
termination_by structural as => as

def occursAmong (exchanged : Bool) (as : List Value) (b : Value) : Bool :=
  match as with
  | [] => false
  | a :: as => agrees exchanged a b || occursAmong exchanged as b
termination_by structural as

/-- Whether every item of `as` agrees with some item of `bs`. -/
def allOccur (exchanged : Bool) : List Value → List Value → Bool
  | [], _ => true
  | a :: as, bs => bs.any (agrees exchanged a) && allOccur exchanged as bs
termination_by structural as => as

def entryAgrees (exchanged : Bool) : Value × Value → Value × Value → Bool
  | (key, value), entry => agrees exchanged key entry.1 && agrees exchanged value entry.2
termination_by structural a => a

def entryAmong (exchanged : Bool) (as : List (Value × Value)) (b : Value × Value) : Bool :=
  match as with
  | [] => false
  | a :: as => entryAgrees exchanged a b || entryAmong exchanged as b
termination_by structural as

def allEntriesOccur (exchanged : Bool) :
    List (Value × Value) → List (Value × Value) → Bool
  | [], _ => true
  | a :: as, bs => bs.any (entryAgrees exchanged a) && allEntriesOccur exchanged as bs
termination_by structural as => as

def fieldAgrees (exchanged : Bool) : String × Value → String × Value → Bool
  | (name, value), field => name == field.1 && agrees exchanged value field.2
termination_by structural a => a

def fieldsAgree (exchanged : Bool) :
    List (String × Value) → List (String × Value) → Bool
  | [], [] => true
  | a :: as, b :: bs => fieldAgrees exchanged a b && fieldsAgree exchanged as bs
  | _, _ => false
termination_by structural as => as

end

/-- Deep equality. -/
instance : BEq Value := ⟨agrees false⟩

def isAmong (v : Value) (items : List Value) : Bool :=
  items.any (· == v)

/-- The items without those that equal an earlier one. -/
def distinct (items : List Value) : List Value :=
  items.foldl (fun kept item => if item.isAmong kept then kept else kept ++ [item]) []

def setOf (items : List Value) : Value :=
  .set (distinct items)

/-- Put a value under a key, in the place of an equal key if there is one. -/
def putEntry (key value : Value) : List (Value × Value) → List (Value × Value)
  | [] => [(key, value)]
  | entry :: rest =>
      if entry.1 == key then (entry.1, value) :: rest else entry :: putEntry key value rest

/-- The map of some entries; a key keeps its first place and its last value. -/
def mapOf (entries : List (Value × Value)) : Value :=
  .map (entries.foldl (fun kept entry => putEntry entry.1 entry.2 kept) [])

end Value
end RecordFilter
