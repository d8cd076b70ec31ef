import RecordFilter.Regex.CharSet

/-!
# Patterns as written

A pattern tree holds what the text of a pattern says before its flags are taken into
account.  Settings of flags are items of their own: they hold from where they stand
to the end of the group around them.
-/

namespace RecordFilter

namespace Pattern

inductive Flag where
  | caseless
  | multiLine
  | dotAll
  | ungreedy
  | returns
  | unicode
  | verbose
  deriving DecidableEq, Repr

abbrev FlagChange := List (Flag × Bool)

namespace Flag

def ofLetter? (letter : Char) : Option Flag :=
  if letter = 'i' then some .caseless
  else if letter = 'm' then some .multiLine
  else if letter = 's' then some .dotAll
  else if letter = 'U' then some .ungreedy
  else if letter = 'R' then some .returns
  else if letter = 'u' then some .unicode
  else if letter = 'x' then some .verbose
  else none

def valueAfter (flag : Flag) (change : FlagChange) (value : Bool) : Bool :=
  match change.find? (·.1 == flag) with
  | some (_, changed) => changed
  | none => value

end Flag

/-- A character of a pattern; two hexadecimal digits may stand for a byte instead. -/
structure Literal where
  char : Char
  isByte : Bool

inductive Shorthand where
  | digit
  | space
  | word
  deriving DecidableEq, Repr

/-- The operations between the sets of a class. -/
inductive SetOperation where
  | inter
  | diff
  | symmetricDiff
  deriving DecidableEq, Repr

inductive CharClass where
  | nothing
  | literal (c : Literal)
  | range (first last : Literal)
  | ascii (negated : Bool) (set : CharSet)
  | property (negated : Bool) (set : CharSet)
  | shorthand (negated : Bool) (kind : Shorthand)
  | bracketed (negated : Bool) (inner : CharClass)
  | union (items : List CharClass)
  | operation (kind : SetOperation) (left right : CharClass)

inductive Mark where
  | lineStart
  | lineEnd
  | textStart
  | textEnd
  | boundary
  | notBoundary
  | wordStart
  | wordEnd
  | wordStartHalf
  | wordEndHalf
  deriving DecidableEq, Repr

inductive Tree where
  | empty
  | setting (change : FlagChange)
  | literal (c : Literal)
  | dot
  | mark (place : Mark)
  | charClass (inner : CharClass)
  | repeated (inner : Tree) (least : Nat) (most : Option Nat)
  | group (inner : Tree)
  | scope (change : FlagChange) (inner : Tree)
  | alternation (branches : List Tree)
  | sequence (items : List Tree)

namespace CharClass

/-- The class of the members between two operations. -/
def ofItems : List CharClass → CharClass
  | [] => .nothing
  | [item] => item
  | items => .union items

mutual

/-- How deep brackets, lists of members and operations are nested. -/
def depth : CharClass → Nat
  | .bracketed _ inner => inner.depth + 1
  | .union items => deepest items + 1
  | .operation _ left right => max left.depth right.depth + 1
  | _ => 0

def deepest : List CharClass → Nat
  | [] => 0
  | item :: rest => max item.depth (deepest rest)

end

end CharClass

namespace Tree

def ofItems : List Tree → Tree
  | [] => .empty
  | [item] => item
  | items => .sequence items

def ofBranches : List Tree → Tree
  | [] => .empty
  | [branch] => branch
  | branches => .alternation branches

/-- Whether an item can be repeated; the setting of flags cannot. -/
def isRepeatable : Tree → Bool
  | .empty => false
  | .setting _ => false
  | _ => true

mutual

def depth : Tree → Nat
  | .charClass inner => inner.depth
  | .repeated inner _ _ => inner.depth + 1
  | .group inner => inner.depth + 1
  | .scope _ inner => inner.depth + 1
  | .alternation branches => deepest branches + 1
  | .sequence items => deepest items + 1
  | _ => 0

def deepest : List Tree → Nat
  | [] => 0
  | item :: rest => max item.depth (deepest rest)

end

end Tree

end Pattern
end RecordFilter
