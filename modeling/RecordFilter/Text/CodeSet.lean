import RecordFilter.Text.CodeTable
import RecordFilter.Text.Ranges

/-!
# Sets of code points

Sets built from tables by Boolean operations.  A set is asked for one code point
at a time, or it is spelled out as ranges.
-/

namespace RecordFilter

inductive CodeSet where
  | table (rows : CodeTable)
  | union (a b : CodeSet)
  | inter (a b : CodeSet)
  | diff (a b : CodeSet)
  | compl (a : CodeSet)

def CodeTable.ranges (rows : CodeTable) : Ranges :=
  Ranges.join <| rows.toList.flatMap fun (first, last, step) =>
    if step = 1 then [(first, last)]
    else (List.range ((last - first) / step + 1)).map fun i => (first + i * step, first + i * step)

namespace CodeSet

def has : CodeSet → Nat → Bool
  | .table rows, code => rows.has code
  | .union a b, code => a.has code || b.has code
  | .inter a b, code => a.has code && b.has code
  | .diff a b, code => a.has code && !b.has code
  | .compl a, code => !a.has code

def ranges : CodeSet → Ranges
  | .table rows => rows.ranges
  | .union a b => Ranges.union a.ranges b.ranges
  | .inter a b => Ranges.inter a.ranges b.ranges
  | .diff a b => Ranges.diff a.ranges b.ranges
  | .compl a => Ranges.compl a.ranges

def range (first last : Nat) : CodeSet :=
  .table #[(first, last, 1)]

def single (code : Nat) : CodeSet :=
  range code code

def unionAll : List CodeSet → CodeSet
  | [] => .table #[]
  | [a] => a
  | a :: rest => .union a (unionAll rest)

def ofTables (tables : List CodeTable) : CodeSet :=
  unionAll (tables.map .table)

end CodeSet
end RecordFilter
