import RecordFilter.Regex.Basic
import RecordFilter.Text.Utf8

/-!
# The size of a pattern

A pattern is refused if a machine that looks for it would take too much room.  Two
machines look for a pattern, one that reads the bytes of a text forwards and one that
reads them backwards.  Both are made of states that take 32 bytes, and a choice among
ranges of bytes takes 8 bytes for each range, a choice among states 4 bytes for each.
Counted repetitions are spelled out, so counts multiply sizes.

Only the forward machine notes where groups begin and end.  Sets of characters beyond
the ASCII range are a tree of encodings forwards and a list of encodings backwards.
-/

namespace RecordFilter

/-- The bytes that an expression takes in either machine. -/
structure Size where
  forward : Nat
  backward : Nat
  deriving DecidableEq, Repr

namespace Size

def both (bytes : Nat) : Size :=
  ⟨bytes, bytes⟩

def add (a b : Size) : Size :=
  ⟨a.forward + b.forward, a.backward + b.backward⟩

def times (count : Nat) (a : Size) : Size :=
  ⟨count * a.forward, count * a.backward⟩

def limit : Nat := 0xA00000

def isWithinLimit (a : Size) : Bool :=
  a.forward ≤ limit && a.backward ≤ limit

/-- The size of a set that is spelled out; a set of one character is read byte by byte. -/
def ofRanges (ranges : Ranges) : Size :=
  let encodings := ranges.flatMap fun (first, last) => Utf8.encodings first last
  let edges := Utf8.edgesAfter [] encodings
  let isSingle := ranges.all fun (first, last) => first == last
  if ranges.length = 1 ∧ isSingle then both (32 * edges)
  else if ranges.all fun (_, last) => last ≤ 0x7F then both (64 + 8 * ranges.length)
  else
    ⟨64 + 32 * (edges - encodings.length) + 8 * edges,
      64 + 32 * edges + 4 * encodings.length⟩

end Size

namespace Regex

/-- Whether the expression never reads a character. -/
def readsNothing : Regex → Bool
  | .empty => true
  | .chars _ => false
  | .assert _ => true
  | .seq a b => a.readsNothing && b.readsNothing
  | .alt a b => a.readsNothing && b.readsNothing
  | .repeated a _ most => most == some 0 || a.readsNothing
  | .group a => a.readsNothing

/-- Whether the expression may match without reading a character. -/
def mayReadNothing : Regex → Bool
  | .empty => true
  | .chars _ => false
  | .assert _ => true
  | .seq a b => a.mayReadNothing && b.mayReadNothing
  | .alt a b => a.mayReadNothing || b.mayReadNothing
  | .repeated a least _ => least == 0 || a.mayReadNothing
  | .group a => a.mayReadNothing

def fork : Size :=
  .both 40

/-- A state that only leads on. -/
def joint : Size :=
  .both 32

def repeatedSize (a : Regex) (size : Size) (least : Nat) (most : Option Nat) : Size :=
  match most with
  | none =>
      if least = 0 then
        if a.mayReadNothing then (size.add fork).add (fork.add joint) else size.add fork
      else (size.times least).add fork
  | some most =>
      if most = 0 then joint
      else if least = most then size.times least
      else if most = 1 then size.add (fork.add joint)
      else
        let start := if least = 0 then joint else size.times least
        (start.add joint).add ((size.add fork).times (most - least))

/-- The size of a choice among branches, given by the sum of their sizes and their number. -/
def choiceSize (branches : Size × Nat) : Size :=
  if branches.2 = 1 then branches.1
  else branches.1.add (.both (64 + 4 * branches.2))

/--
The sum of the sizes of the branches of an expression, and their number.  A choice
within a choice adds branches to the outer one.
-/
def branches : Regex → Size × Nat
  | .empty => (joint, 1)
  | .chars set => (.ofRanges set.ranges, 1)
  | .assert _ => (joint, 1)
  | .seq a b => ((choiceSize a.branches).add (choiceSize b.branches), 1)
  | .alt a b => (a.branches.1.add b.branches.1, a.branches.2 + b.branches.2)
  | .repeated a least most =>
      if a.readsNothing then
        (repeatedSize a (choiceSize a.branches) (min least 1) ((most.map (min 1)).or (some 1)), 1)
      else (repeatedSize a (choiceSize a.branches) least most, 1)
  | .group a => ((choiceSize a.branches).add ⟨64, 0⟩, 1)

def size (r : Regex) : Size :=
  (choiceSize r.branches).add ⟨208, 144⟩

end Regex
end RecordFilter
