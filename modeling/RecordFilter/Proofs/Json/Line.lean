import RecordFilter.Json.Writer

/-!
# Compact JSON is one line

The compact text of a JSON value has no control characters, so no line breaks either.  Those
in strings are escaped, numerals have none, and what stands between the parts is punctuation.

The main statement says this of all JSON values, by induction on their structure.
-/

namespace RecordFilter

def IsUncontrolled (text : List Char) : Prop :=
  ∀ c ∈ text, 0x20 ≤ c.toNat

instance : DecidablePred IsUncontrolled :=
  fun text => List.decidableBAll (fun c : Char => 0x20 ≤ c.toNat) text

namespace IsUncontrolled

variable {text rest : List Char}

theorem append (h : IsUncontrolled text) (hrest : IsUncontrolled rest) :
    IsUncontrolled (text ++ rest) :=
  List.forall_mem_append.mpr ⟨h, hrest⟩

theorem cons {c : Char} (h : 0x20 ≤ c.toNat) (hrest : IsUncontrolled rest) :
    IsUncontrolled (c :: rest) :=
  List.forall_mem_cons.mpr ⟨h, hrest⟩

theorem of_subset (h : IsUncontrolled text) (hsubset : rest ⊆ text) : IsUncontrolled rest :=
  fun c hc => h c (hsubset hc)

theorem replicate {c : Char} (h : 0x20 ≤ c.toNat) (n : Nat) :
    IsUncontrolled (List.replicate n c) := by
  intro d hd
  rwa [List.eq_of_mem_replicate hd]

theorem newline_not_mem (h : IsUncontrolled text) : '\n' ∉ text := by
  intro hmem
  exact absurd (h '\n' hmem) (by decide)

end IsUncontrolled

/-! ## Numerals -/

theorem isUncontrolled_natDigits (n : Nat) : IsUncontrolled (natDigits n) := by
  intro c hc
  have hdigit : c.isDigit = true := Nat.isDigit_of_mem_toDigits (by decide) (by decide) hc
  exact Nat.le_trans (by decide) (Char.isDigit_iff_toNat.mp hdigit).1

theorem isUncontrolled_intDigits (i : Int) : IsUncontrolled (intDigits i) := by
  unfold intDigits
  split
  · exact (isUncontrolled_natDigits _).cons (by decide)
  · exact isUncontrolled_natDigits _

structure NumeralStyle.IsUncontrolled (style : NumeralStyle) : Prop where
  wholeEnd : RecordFilter.IsUncontrolled style.wholeEnd
  exponentSign : RecordFilter.IsUncontrolled style.exponentSign
  infinity : RecordFilter.IsUncontrolled style.infinity
  notANumber : RecordFilter.IsUncontrolled style.notANumber

theorem NumeralStyle.isUncontrolled_json : NumeralStyle.json.IsUncontrolled := by
  constructor <;> decide

section Style

variable {style : NumeralStyle} (h : style.IsUncontrolled)
include h

theorem Numeral.isUncontrolled_inPlace {digits : List Char} (hdigits : IsUncontrolled digits)
    (power : Int) : IsUncontrolled (inPlace style digits power) := by
  have hzeros := IsUncontrolled.replicate (show 0x20 ≤ '0'.toNat by decide)
  have htake := fun n => hdigits.of_subset (List.take_subset n digits)
  have hdrop := fun n => hdigits.of_subset (List.drop_subset n digits)
  unfold inPlace
  split
  · exact (hdigits.append (hzeros _)).append h.wholeEnd
  · dsimp only
    split
    · exact (htake _).append ((hdrop _).cons (by decide))
    · exact (((hzeros _).append hdigits).cons (by decide)).cons (by decide)

theorem Numeral.isUncontrolled_withExponent {digits : List Char}
    (hdigits : IsUncontrolled digits) (exponent : Int) :
    IsUncontrolled (withExponent style digits exponent) := by
  have hsign : IsUncontrolled (if 0 ≤ exponent then style.exponentSign else []) := by
    split
    · exact h.exponentSign
    · exact nofun
  unfold withExponent
  refine (IsUncontrolled.append ?_ (hsign.cons (by decide))).append
    (isUncontrolled_intDigits exponent)
  split
  · next first second rest =>
      rcases List.forall_mem_cons.mp hdigits with ⟨hfirst, hrest⟩
      exact (IsUncontrolled.cons (by decide) hrest).cons hfirst
  · exact hdigits

theorem Numeral.isUncontrolled_magnitude (n : Number) : IsUncontrolled (magnitude style n) := by
  unfold magnitude
  split
  · exact h.wholeEnd.cons (by decide)
  · dsimp only
    split
    · exact isUncontrolled_inPlace h (isUncontrolled_natDigits _) _
    · exact isUncontrolled_withExponent h (isUncontrolled_natDigits _) _

theorem Number.isUncontrolled_write (n : Number) : IsUncontrolled (n.write style) := by
  have hunsigned : IsUncontrolled
      (if n.isInfinite then style.infinity else Numeral.magnitude style n) := by
    split
    · exact h.infinity
    · exact Numeral.isUncontrolled_magnitude h n
  unfold write
  split
  · exact h.notANumber
  · dsimp only
    split
    · exact hunsigned.cons (by decide)
    · exact hunsigned

end Style

/-! ## JSON -/

namespace Json

theorem isUncontrolled_hexDigits {n : Nat} (h : n < 0x20) : IsUncontrolled (hexDigits n) := by
  have hall : ∀ n < 0x20, IsUncontrolled (hexDigits n) := by
    decide
  exact hall n h

theorem isUncontrolled_escapeChar (c : Char) : IsUncontrolled (escapeChar c) := by
  unfold escapeChar
  repeat' split
  all_goals try decide
  · next hlow => exact IsUncontrolled.append (by decide) (isUncontrolled_hexDigits (by omega))
  · next hlow => exact IsUncontrolled.append (by decide) (isUncontrolled_hexDigits hlow)
  · next hhigh => exact IsUncontrolled.cons (Nat.le_of_not_lt hhigh) nofun

theorem isUncontrolled_quote (s : String) : IsUncontrolled (quote s) := by
  unfold quote
  refine IsUncontrolled.append (IsUncontrolled.cons (by decide) ?_) (by decide)
  intro c hc
  rcases List.mem_flatMap.mp hc with ⟨d, -, hescaped⟩
  exact isUncontrolled_escapeChar d c hescaped

mutual

theorem isUncontrolled_write : ∀ json : Json, IsUncontrolled json.write
  | .null | .bool true | .bool false => by decide
  | .integer i => isUncontrolled_intDigits i
  | .decimal n => n.isUncontrolled_write NumeralStyle.isUncontrolled_json
  | .string s => isUncontrolled_quote s
  | .array items =>
      ((isUncontrolled_writeItems items).cons (by decide)).append (by decide)
  | .object fields =>
      ((isUncontrolled_writeFields fields).cons (by decide)).append (by decide)

theorem isUncontrolled_writeItems : ∀ items : List Json, IsUncontrolled (writeItems items)
  | [] => nofun
  | item :: rest => by
      refine (isUncontrolled_write item).append ?_
      split
      · exact nofun
      · exact (isUncontrolled_writeItems rest).cons (by decide)

theorem isUncontrolled_writeFields :
    ∀ fields : List (String × Json), IsUncontrolled (writeFields fields)
  | [] => nofun
  | field :: rest => by
      refine (isUncontrolled_writeField field).append ?_
      split
      · exact nofun
      · exact (isUncontrolled_writeFields rest).cons (by decide)

theorem isUncontrolled_writeField :
    ∀ field : String × Json, IsUncontrolled (writeField field)
  | (name, value) =>
      (isUncontrolled_quote name).append ((isUncontrolled_write value).cons (by decide))

end

/-- The compact text of a JSON value is one line. -/
theorem newline_not_mem_render (json : Json) : '\n' ∉ json.render.toList := by
  rw [render, String.toList_ofList]
  exact (isUncontrolled_write json).newline_not_mem

end Json

end RecordFilter
