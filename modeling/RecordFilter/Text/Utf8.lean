import RecordFilter.Text.Ranges

/-!
# Ranges in UTF-8

The code points of a range are encoded by sequences of bytes.  The range can be cut
so that the encodings of each piece are the sequences that take their bytes from one
range of bytes at each place.
-/

namespace RecordFilter

/-- A range of bytes for each place of an encoding. -/
abbrev ByteRanges := List (Nat × Nat)

namespace Utf8

/--
Cut a range of numerals to base 64 that have a leading part and so many places after
it.  The first entry of a piece is the leading part, the others hold one place each.
-/
def cut : Nat → Nat → Nat → List ByteRanges
  | 0, first, last => [[(first, last)]]
  | places + 1, first, last =>
      let unit := 1 <<< (6 * (places + 1))
      let low := first / unit
      let high := last / unit
      if low = high then (cut places (first % unit) (last % unit)).map ((low, low) :: ·)
      else
        let isLowWhole := first % unit == 0
        let isHighWhole := last % unit + 1 == unit
        let start := if isLowWhole then low else low + 1
        let stop := if isHighWhole then high + 1 else high
        (if isLowWhole then []
          else (cut places (first % unit) (unit - 1)).map ((low, low) :: ·)) ++
        (if start < stop then [(start, stop - 1) :: List.replicate (places + 1) (0, 63)]
          else []) ++
        (if isHighWhole then [] else (cut places 0 (last % unit)).map ((high, high) :: ·))

/--
The blocks of code points with equally long encodings, as `(first, last, places, mark)`:
so many bytes follow the first one, to which the mark is added.
-/
def blocks : List (Nat × Nat × Nat × Nat) := [
  (0, 0x7F, 0, 0), (0x80, 0x7FF, 1, 0xC0), (0x800, 0xD7FF, 2, 0xE0), (0xE000, 0xFFFF, 2, 0xE0),
  (0x10000, 0x10FFFF, 3, 0xF0)]

/-- Add the mark that tells the length of an encoding to its first byte. -/
def markLength (mark : Nat) : ByteRanges → ByteRanges
  | [] => []
  | (first, last) :: rest => (first + mark, last + mark) :: rest

def encodings (first last : Nat) : List ByteRanges :=
  blocks.flatMap fun (start, stop, places, mark) =>
    if max first start ≤ min last stop then
      (cut places (max first start) (min last stop)).map (markLength mark)
    else []

/-- The length of what two encodings have in common in front. -/
def commonLength : ByteRanges → ByteRanges → Nat
  | a :: rest, b :: rest' => if a = b then commonLength rest rest' + 1 else 0
  | _, _ => 0

/-- The number of edges of the tree of encodings in ascending order that follow `previous`. -/
def edgesAfter (previous : ByteRanges) : List ByteRanges → Nat
  | [] => 0
  | next :: rest => next.length - commonLength previous next + edgesAfter next rest

end Utf8
end RecordFilter
