/-!
# Tables of code points

A set of characters is kept as an array of arithmetic progressions, written
`(first, last, step)`.  The rows are sorted and their hulls do not meet, so a
membership test looks at one row only, found by halving.

The main statements say that the row found is a row of the table and starts at or below the
code asked for, and that in a sorted table it is the row whose hull the code lies in.
-/

namespace RecordFilter

/-- Progressions `(first, last, step)` of code points, in ascending order. -/
abbrev CodeTable := Array (Nat × Nat × Nat)

namespace CodeTable

/--
The position of the last row that starts at or below `code`, looking at the
`2 ^ bits` rows from `base` on.  The row at `base` itself is not inspected.
-/
def seek (start : α → Nat) (rows : Array α) (code : Nat) : Nat → Nat → Nat
  | 0, base => base
  | bits + 1, base =>
      let next := base + 2 ^ bits
      match rows[next]? with
      | some row =>
          if start row ≤ code then seek start rows code bits next
          else seek start rows code bits base
      | none => seek start rows code bits base

/-- The last row that starts at or below `code`. -/
def row? (start : α → Nat) (rows : Array α) (code : Nat) : Option α :=
  match rows[seek start rows code (rows.size.log2 + 1) 0]? with
  | some row => if start row ≤ code then some row else none
  | none => none

theorem mem_of_row? {start : α → Nat} {rows : Array α} {code : Nat} {row : α}
    (h : row? start rows code = some row) : row ∈ rows ∧ start row ≤ code := by
  unfold row? at h
  split at h
  · next found hfound =>
      split at h
      · next hle =>
          cases h
          exact ⟨Array.mem_of_getElem? hfound, hle⟩
      · cases h
  · cases h

theorem seek_succ {start : α → Nat} {rows : Array α} {code bits base : Nat} :
    seek start rows code (bits + 1) base =
      match rows[base + 1 <<< bits]? with
      | some row =>
          if start row ≤ code then seek start rows code bits (base + 1 <<< bits)
          else seek start rows code bits base
      | none => seek start rows code bits base := by
  rw [Nat.one_shiftLeft]
  rfl

/-- Halving narrows the rows down to the last one that starts at or below `code`. -/
theorem seek_eq {start : α → Nat} {rows : Array α} {code last : Nat} (hlast : last < rows.size)
    (hbelow : ∀ i row, i ≤ last → rows[i]? = some row → start row ≤ code)
    (habove : ∀ i row, last < i → rows[i]? = some row → code < start row)
    {bits base : Nat} (hbase : base ≤ last) (hbits : last < base + 1 <<< bits) :
    seek start rows code bits base = last := by
  induction bits generalizing base with
  | zero => exact Nat.le_antisymm hbase (Nat.le_of_lt_succ hbits)
  | succ bits ih =>
      have hhalves : 1 <<< (bits + 1) = 1 <<< bits + 1 <<< bits := by
        rw [Nat.one_shiftLeft, Nat.one_shiftLeft, Nat.pow_succ, Nat.mul_two]
      rw [seek_succ]
      by_cases hnext : base + 1 <<< bits ≤ last
      · have hrow := Array.getElem?_eq_getElem (Nat.lt_of_le_of_lt hnext hlast)
        simp only [hrow, if_pos (hbelow _ _ hnext hrow)]
        exact ih hnext (by omega)
      · have hhalf := Nat.not_le.mp hnext
        split
        · next row hrow =>
            rw [if_neg (Nat.not_le.mpr (habove _ _ hhalf hrow))]
            exact ih hbase hhalf
        · exact ih hbase hhalf

/-- In a table whose hulls do not meet, the row found is the one whose hull the code lies in. -/
theorem row?_eq_some {start : α → Nat} (finish : α → Nat) {rows : Array α} {code : Nat} {row : α}
    (hsorted : rows.toList.Pairwise fun before after =>
      start before ≤ finish before ∧ finish before < start after)
    (hrow : row ∈ rows) (hstart : start row ≤ code) (hfinish : code ≤ finish row) :
    row? start rows code = some row := by
  rcases Array.mem_iff_getElem?.mp hrow with ⟨last, hat⟩
  have hapart : ∀ {i j : Nat} {before after : α}, i < j → rows[i]? = some before →
      rows[j]? = some after → start before ≤ finish before ∧ finish before < start after := by
    intro i j before after hij hi hj
    rcases Array.getElem?_eq_some_iff.mp hi with ⟨hisize, rfl⟩
    rcases Array.getElem?_eq_some_iff.mp hj with ⟨hjsize, rfl⟩
    exact List.pairwise_iff_getElem.mp hsorted i j hisize hjsize hij
  have hbelow : ∀ i found, i ≤ last → rows[i]? = some found → start found ≤ code := by
    intro i found hi hfound
    rcases Nat.lt_or_eq_of_le hi with hlt | rfl
    · have hbetween := hapart hlt hfound hat
      omega
    · rw [Option.some.inj (hfound.symm.trans hat)]
      exact hstart
  have habove : ∀ i found, last < i → rows[i]? = some found → code < start found := by
    intro i found hi hfound
    have hbetween := hapart hi hat hfound
    omega
  have hlast : last < rows.size := (Array.getElem?_eq_some_iff.mp hat).1
  have hseek : seek start rows code (rows.size.log2 + 1) 0 = last := by
    refine seek_eq hlast hbelow habove (Nat.zero_le last) ?_
    rw [Nat.zero_add, Nat.one_shiftLeft]
    exact Nat.lt_trans hlast Nat.lt_log2_self
  unfold row?
  rw [hseek, hat]
  exact if_pos hstart

/-- Whether one of the progressions hits `code`. -/
def has (table : CodeTable) (code : Nat) : Bool :=
  match row? Prod.fst table code with
  | some (first, last, step) => code ≤ last && (code - first) % step == 0
  | none => false

def hasChar (table : CodeTable) (c : Char) : Bool :=
  table.has c.toNat

end CodeTable
end RecordFilter
