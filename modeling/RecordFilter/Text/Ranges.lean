/-!
# Ranges of code points

A set of code points may be listed as ranges `(first, last)` in ascending order that
neither meet nor touch.  Every set has one such list, so the list tells how much a
set takes when it is spelled out.
-/

namespace RecordFilter

/-- Ranges `(first, last)` in ascending order that neither meet nor touch. -/
abbrev Ranges := List (Nat × Nat)

namespace Ranges

def lastCode : Nat := 0x10FFFF

/-- Put a range in front of ranges that do not start before it. -/
def joinFrom (first last : Nat) : Ranges → Ranges
  | [] => [(first, last)]
  | (first', last') :: rest =>
      if first' ≤ last + 1 then joinFrom first (max last last') rest
      else (first, last) :: joinFrom first' last' rest

def join : Ranges → Ranges
  | [] => []
  | (first, last) :: rest => joinFrom first last rest

def union (a b : Ranges) : Ranges :=
  join (List.merge a b fun x y => decide (x.1 ≤ y.1))

/-- What is missing from `next` on. -/
def complFrom (next : Nat) : Ranges → Ranges
  | [] => if next ≤ lastCode then [(next, lastCode)] else []
  | (first, last) :: rest =>
      if next < first then (next, first - 1) :: complFrom (last + 1) rest
      else complFrom (last + 1) rest

def compl (a : Ranges) : Ranges :=
  complFrom 0 a

def inter (a b : Ranges) : Ranges :=
  compl (union (compl a) (compl b))

def diff (a b : Ranges) : Ranges :=
  compl (union (compl a) b)

end Ranges
end RecordFilter
