import RecordFilter.Text.CaseFold
import RecordFilter.Text.NamedSet

/-!
# Sets of characters

The sets that a pattern can describe: ranges, named sets, and what Boolean
operations and closing under letter case make of them.
-/

namespace RecordFilter

inductive CharSet where
  | none
  | any
  | range (first last : Nat)
  | named (set : NamedSet)
  | union (a b : CharSet)
  | inter (a b : CharSet)
  | diff (a b : CharSet)
  | compl (a : CharSet)
  | anyCase (a : CharSet)
  | anyAsciiCase (a : CharSet)
  deriving DecidableEq, Repr

namespace CharSet

def otherAsciiCase (code : Nat) : Nat :=
  if 0x41 ≤ code ∧ code ≤ 0x5A then code + 0x20
  else if 0x61 ≤ code ∧ code ≤ 0x7A then code - 0x20
  else code

def has : CharSet → Nat → Bool
  | .none, _ => false
  | .any, _ => true
  | .range first last, code => first ≤ code && code ≤ last
  | .named set, code => set.codes.has code
  | .union a b, code => a.has code || b.has code
  | .inter a b, code => a.has code && b.has code
  | .diff a b, code => a.has code && !b.has code
  | .compl a, code => !a.has code
  | .anyCase a, code => (CaseFold.orbit code).any a.has
  | .anyAsciiCase a, code => a.has code || a.has (otherAsciiCase code)

/-- The ASCII letters that differ in case from a member of the set. -/
def asciiClosure (a : CharSet) : Ranges :=
  let letters := (List.range 26).map (· + 0x41) ++ (List.range 26).map (· + 0x61)
  Ranges.join <| (letters.filter fun code => a.has (otherAsciiCase code)).map fun code =>
    (code, code)

def ranges : CharSet → Ranges
  | .none => []
  | .any => [(0, Ranges.lastCode)]
  | .range first last => [(first, last)]
  | .named set => set.codes.ranges
  | .union a b => Ranges.union a.ranges b.ranges
  | .inter a b => Ranges.inter a.ranges b.ranges
  | .diff a b => Ranges.diff a.ranges b.ranges
  | .compl a => Ranges.compl a.ranges
  | .anyCase a => Ranges.union a.ranges (CaseFold.closure a.has)
  | .anyAsciiCase a => Ranges.union a.ranges a.asciiClosure

def single (c : Char) : CharSet :=
  .range c.toNat c.toNat

def ofList (sets : List CharSet) : CharSet :=
  match sets with
  | [] => .none
  | [set] => set
  | set :: rest => .union set (ofList rest)

def symmetricDiff (a b : CharSet) : CharSet :=
  .union (.diff a b) (.diff b a)

def negateIf (negated : Bool) (a : CharSet) : CharSet :=
  if negated then .compl a else a

end CharSet
end RecordFilter
