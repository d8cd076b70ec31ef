import RecordFilter.Criterion.Registry

/-!
# Expressions

An expression is a criterion, a filter of criteria, or a group of filters.  Filters
and groups join their members by a connective.  Every expression has a form as a
group, and the level it was given at says which part of the group's result is its
own.
-/

namespace RecordFilter

inductive Connective where
  | all
  | any
  deriving DecidableEq, Repr

namespace Connective

def name : Connective → String
  | .all => "AND"
  | .any => "OR"

def ofName? (text : String) : Option Connective :=
  if text == "AND" then some .all else if text == "OR" then some .any else none

def combine (connective : Connective) (verdicts : List Bool) : Bool :=
  match connective with
  | .all => verdicts.all id
  | .any => verdicts.any id

end Connective

inductive Node (Hook : Type) where
  | criterion (criterion : Criterion Hook)
  | reference (reference : Reference Hook)

structure Filter (Hook : Type) where
  connective : Connective
  nodes : List (Node Hook)

structure FilterGroup (Hook : Type) where
  connective : Connective
  filters : List (Filter Hook)

inductive Level where
  | criterion
  | filter
  | group
  deriving DecidableEq, Repr

inductive Expression (Hook : Type) where
  | node (node : Node Hook)
  | filter (filter : Filter Hook)
  | group (group : FilterGroup Hook)

namespace Expression

variable {Hook : Type}

def level : Expression Hook → Level
  | .node _ => .criterion
  | .filter _ => .filter
  | .group _ => .group

/-- The form of the expression as a group. -/
def toGroup : Expression Hook → FilterGroup Hook
  | .node n => ⟨.all, [⟨.all, [n]⟩]⟩
  | .filter f => ⟨.all, [f]⟩
  | .group g => g

def count (expression : Expression Hook) : Nat :=
  (expression.toGroup.filters.flatMap Filter.nodes).length

def isEmpty (expression : Expression Hook) : Bool :=
  expression.count == 0

end Expression
end RecordFilter
