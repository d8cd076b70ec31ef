import RecordFilter.Proofs.Json.Numeral
import RecordFilter.Proofs.Traversal

/-!
# JSON is read as it is written

The values that the reader gives have integers of 64 bits, finite decimals and fields in
ascending order, and they are not nested too deep.  Each of them is read back from its compact
text: strings character by character, containers member by member.

The main statement is that these are all the values of which this is true.
-/

namespace RecordFilter

theorem Keyed.insert_last {α : Type} {entries : List (String × α)} {key : String}
    (h : ∀ other ∈ entries, other.1 < key) (value : α) :
    Keyed.insert key value entries = entries ++ [(key, value)] := by
  induction entries with
  | nil => rfl
  | cons first rest ih =>
      rcases List.forall_mem_cons.mp h with ⟨hfirst, hrest⟩
      unfold Keyed.insert
      rw [if_neg (String.lt_asymm hfirst), if_neg (String.ne_of_lt hfirst).symm, ih hrest]
      rfl

namespace Json

/-! ## Strings -/

theorem hexValue?_of_lt {n : Nat} (h : n < 0x20) :
    hexValue? ['0', '0', (n / 0x10).digitChar, (n % 0x10).digitChar] = some n := by
  have hall : ∀ n < 0x20,
      hexValue? ['0', '0', (n / 0x10).digitChar, (n % 0x10).digitChar] = some n := by
    decide
  exact hall n h

section Characters

variable (done rest : List Char)

theorem readString_code {c : Char} (h : c.toNat < 0x20) :
    readString done ('\\' :: 'u' :: '0' :: '0' :: (c.toNat / 0x10).digitChar ::
      (c.toNat % 0x10).digitChar :: rest) = readString (c :: done) rest := by
  have hlow : isLowSurrogate c.toNat = false := by
    simp [isLowSurrogate]
    omega
  have hhigh : isHighSurrogate c.toNat = false := by
    simp [isHighSurrogate]
    omega
  rw [readString, hexValue?_of_lt h]
  simp only [hlow, hhigh, Bool.false_eq_true, if_false, Char.ofNat_toNat]

theorem readString_letter {letter c : Char} (hletter : letter ≠ 'u')
    (h : escaped? letter = some c) :
    readString done ('\\' :: letter :: rest) = readString (c :: done) rest := by
  rw [readString, h]
  · simp [hletter]
  · simp [hletter]

theorem readString_plain {c : Char} (hquote : c ≠ '"') (hslash : c ≠ '\\')
    (hlow : ¬c.toNat < 0x20) :
    readString done (c :: rest) = readString (c :: done) rest := by
  rw [readString, if_neg hlow]
  all_goals simp [hquote, hslash]

theorem readString_escapeChar (c : Char) :
    readString done (escapeChar c ++ rest) = readString (c :: done) rest := by
  have hletter : ∀ {letter : Char} {n : Nat}, c.toNat = n → letter ≠ 'u' →
      escaped? letter = some (Char.ofNat n) →
        readString done (['\\', letter] ++ rest) = readString (c :: done) rest := by
    rintro letter n rfl hne h
    exact readString_letter done rest hne (h.trans (congrArg some (Char.ofNat_toNat c)))
  unfold escapeChar
  split
  · next h => exact hletter (congrArg Char.toNat h) (by decide) rfl
  split
  · next h => exact hletter (congrArg Char.toNat h) (by decide) rfl
  split
  · next h => exact hletter h (by decide) rfl
  split
  · next h => exact hletter h (by decide) rfl
  split
  · next h => exact hletter h (by decide) rfl
  split
  · next h => exact hletter h (by decide) rfl
  split
  · next h => exact hletter h (by decide) rfl
  split
  · next h =>
      have hcode := readString_code done rest (c := c) (by omega)
      rw [Nat.div_eq_of_lt h, Nat.mod_eq_of_lt h] at hcode
      rw [hexDigits, Nat.toDigits_of_lt_base h]
      exact hcode
  split
  · next hlow h =>
      rw [hexDigits, Nat.toDigits_of_base_le (by decide) (Nat.le_of_not_lt hlow),
        Nat.toDigits_of_lt_base (by omega)]
      exact readString_code done rest h
  · next hquote hslash _ _ _ _ _ _ h => exact readString_plain done rest hquote hslash h

end Characters

theorem readString_flatMap (done cs rest : List Char) :
    readString done (cs.flatMap escapeChar ++ '"' :: rest) =
      .ok (String.ofList (done.reverse ++ cs), rest) := by
  induction cs generalizing done with
  | nil =>
      rw [List.flatMap_nil, List.nil_append, List.append_nil, readString]
  | cons c cs ih =>
      rw [List.flatMap_cons, List.append_assoc, readString_escapeChar, ih, List.reverse_cons,
        List.append_assoc, List.singleton_append]

theorem readString_quote (s : String) (rest : List Char) :
    ∃ text, quote s = '"' :: text ∧ readString [] (text ++ rest) = .ok (s, rest) := by
  refine ⟨s.toList.flatMap escapeChar ++ ['"'], rfl, ?_⟩
  rw [List.append_assoc, List.singleton_append, readString_flatMap, List.reverse_nil,
    List.nil_append, String.ofList_toList]

/-! ## Values of a limited depth -/

/-- What the reader gives if it may open so many levels. -/
inductive Fits : Nat → Json → Prop
  | null (depth : Nat) : Fits depth .null
  | bool (depth : Nat) (b : Bool) : Fits depth (.bool b)
  | integer (depth : Nat) {i : Int} (least : leastInteger ≤ i) (greatest : i ≤ greatestInteger) :
      Fits depth (.integer i)
  | decimal (depth : Nat) {n : Number} (finite : n.IsFinite) : Fits depth (.decimal n)
  | string (depth : Nat) (s : String) : Fits depth (.string s)
  | array {depth : Nat} {items : List Json} (h : ∀ item ∈ items, Fits depth item) :
      Fits (depth + 1) (.array items)
  | object {depth : Nat} {fields : List (String × Json)} (ascends : Keyed.Ascends fields)
      (h : ∀ field ∈ fields, Fits depth field.2) : Fits (depth + 1) (.object fields)

/-! ## First characters -/

def IsStart (c : Char) : Prop :=
  c.isDigit = true ∨ c ∈ ['n', 't', 'f', '-', '"', '[', '\x7b']

instance : DecidablePred IsStart :=
  fun _ => inferInstanceAs (Decidable (_ ∨ _))

theorem IsStart.isBlank {c : Char} (h : IsStart c) : isBlank c = false := by
  refine Bool.eq_false_iff.mpr fun hblank => ?_
  have hmem : c = ' ' ∨ c = '\n' ∨ c = '\t' ∨ c = '\r' := by
    simpa [Json.isBlank, or_assoc] using hblank
  rcases hmem with rfl | rfl | rfl | rfl <;> exact absurd h (by decide)

theorem IsStart.ne_bracket {c : Char} (h : IsStart c) : c ≠ ']' := by
  rintro rfl
  exact absurd h (by decide)

theorem NumberText.IsProper.exists_write_eq_cons {numeral : NumberText} (h : numeral.IsProper) :
    ∃ c cs, numeral.write = c :: cs ∧ (c.isDigit = true ∨ c = '-') := by
  obtain ⟨d, ds, hwhole⟩ := List.exists_cons_of_ne_nil h.whole.ne_nil
  unfold NumberText.write NumberText.spell
  rw [hwhole]
  split
  · exact ⟨'-', _, rfl, .inr rfl⟩
  · exact ⟨d, _, rfl, .inl (h.whole.isDigit d (hwhole ▸ List.mem_cons_self))⟩

theorem isStart_of_numeral {c : Char} (h : c.isDigit = true ∨ c = '-') : IsStart c := by
  rcases h with hdigit | rfl
  · exact .inl hdigit
  · exact .inr (by decide)

theorem Fits.exists_write_eq_cons {depth : Nat} {json : Json} (h : json.Fits depth) :
    ∃ c cs, json.write = c :: cs ∧ IsStart c := by
  cases h with
  | null => exact ⟨'n', _, rfl, .inr (by decide)⟩
  | bool _ b =>
      cases b with
      | true => exact ⟨'t', _, rfl, .inr (by decide)⟩
      | false => exact ⟨'f', _, rfl, .inr (by decide)⟩
  | integer _ least greatest =>
      obtain ⟨numeral, hproper, -, hwrite⟩ := NumberText.exists_write_integer least greatest
      obtain ⟨c, cs, hcs, hc⟩ := hproper.exists_write_eq_cons
      exact ⟨c, cs, hwrite.symm.trans hcs, isStart_of_numeral hc⟩
  | decimal _ finite =>
      obtain ⟨numeral, hproper, -, hwrite⟩ := NumberText.exists_write_decimal finite
      obtain ⟨c, cs, hcs, hc⟩ := hproper.exists_write_eq_cons
      exact ⟨c, cs, hwrite.symm.trans hcs, isStart_of_numeral hc⟩
  | string _ s => exact ⟨'"', _, rfl, .inr (by decide)⟩
  | array => exact ⟨'[', _, rfl, .inr (by decide)⟩
  | object => exact ⟨'\x7b', _, rfl, .inr (by decide)⟩

/-! ## Values -/

theorem skipBlanks_cons {c : Char} (h : isBlank c = false) (cs : List Char) :
    skipBlanks (c :: cs) = c :: cs :=
  List.dropWhile_cons_of_neg (Bool.eq_false_iff.mp h)

section Scalars

variable (fuel depth : Nat) {rest : List Char}

theorem readValue_numeral {numeral : NumberText} (h : numeral.IsProper)
    (hrest : EndsNumeral rest) :
    readValue (fuel + 1) depth (numeral.write ++ rest) = ofNumeral numeral rest := by
  have hread : readNumber numeral.negative (numeral.spell ++ rest) = ofNumeral numeral rest := by
    unfold readNumber
    rw [NumberText.readNumeral_spell h hrest]
    rfl
  unfold NumberText.write
  cases hnegative : numeral.negative with
  | true =>
      rw [if_pos rfl, List.cons_append, readValue, skipBlanks_cons (by decide)]
      rw [hnegative] at hread
      exact hread
  | false =>
      rw [if_neg Bool.false_ne_true]
      rw [hnegative] at hread
      obtain ⟨d, ds, hwhole⟩ := List.exists_cons_of_ne_nil h.whole.ne_nil
      have hdigit : d.isDigit = true := h.whole.isDigit d (hwhole ▸ List.mem_cons_self)
      have hspell : ∃ cs, numeral.spell ++ rest = d :: cs := by
        unfold NumberText.spell
        rw [hwhole]
        exact ⟨_, rfl⟩
      obtain ⟨cs, hcs⟩ := hspell
      rw [hcs] at hread ⊢
      have hne : ∀ {e : Char}, e.isDigit = false → d ≠ e := by
        rintro e he rfl
        rw [hdigit] at he
        cases he
      rw [readValue, skipBlanks_cons (IsStart.isBlank (.inl hdigit))]
      dsimp only
      rw [if_neg (hne rfl), if_neg (hne rfl), if_neg (hne rfl), if_neg (hne rfl), if_pos hdigit,
        hread]

theorem readValue_quote (s : String) :
    readValue (fuel + 1) depth (quote s ++ rest) = .ok (.string s, rest) := by
  obtain ⟨text, hquote, hread⟩ := readString_quote s rest
  rw [hquote, List.cons_append, readValue, skipBlanks_cons (by decide)]
  simp [hread, Except.map]

end Scalars

/-! ## What is read back -/

mutual

/-- What the text of a value is read as, if it is read at all. -/
def readBack? : Json → Option Json
  | .decimal n => n.readBack?
  | .array items => (readBackItems items).map .array
  | .object fields => (readBackFields fields).map .object
  | json => some json
termination_by structural json => json

def readBackItems : List Json → Option (List Json)
  | [] => some []
  | item :: rest => (readBack? item).bind fun back => (readBackItems rest).map (back :: ·)
termination_by structural items => items

def readBackFields : List (String × Json) → Option (List (String × Json))
  | [] => some []
  | field :: rest => (readBackField field).bind fun back => (readBackFields rest).map (back :: ·)
termination_by structural fields => fields

def readBackField : String × Json → Option (String × Json)
  | (name, value) => (readBack? value).map (name, ·)
termination_by structural field => field

end

theorem readBackItems_eq_some_iff {items : List Json} :
    readBackItems items = some items ↔ ∀ item ∈ items, item.readBack? = some item := by
  induction items with
  | nil => exact iff_of_true rfl (List.forall_mem_nil _)
  | cons item rest ih =>
      rw [List.forall_mem_cons, ← ih, readBackItems, Option.bind_eq_some_iff]
      constructor
      · rintro ⟨back, hback, hrest⟩
        obtain ⟨_, hrest, heq⟩ := Option.map_eq_some_iff.mp hrest
        cases heq
        exact ⟨hback, hrest⟩
      · rintro ⟨hitem, hrest⟩
        exact ⟨item, hitem, by rw [hrest]; rfl⟩

theorem readBackFields_eq_some {fields : List (String × Json)}
    (h : ∀ field ∈ fields, field.2.readBack? = some field.2) :
    readBackFields fields = some fields := by
  induction fields with
  | nil => rfl
  | cons field rest ih =>
      obtain ⟨name, value⟩ := field
      rcases List.forall_mem_cons.mp h with ⟨hvalue, hrest⟩
      rw [readBackFields, readBackField, hvalue, ih hrest]
      rfl

theorem toOption_eq_some_iff {ε α : Type} {x : Except ε α} {a : α} :
    x.toOption = some a ↔ x = .ok a := by
  cases x with
  | error e => exact iff_of_false nofun nofun
  | ok b => exact ⟨fun h => congrArg Except.ok (Option.some.inj h), fun h => h ▸ rfl⟩

/-! ## Members -/

/-- With enough fuel the text of a value is read to its end, if what follows is apart from it. -/
structure ReadsAt (depth : Nat) (json : Json) : Prop where
  start : ∃ c cs, json.write = c :: cs ∧ IsStart c
  read : ∀ fuel rest, json.write.length ≤ fuel → EndsNumeral rest →
    (readValue fuel depth (json.write ++ rest)).toOption = json.readBack?.map (·, rest)

theorem ReadsAt.outcome {depth fuel : Nat} {json : Json} (h : json.ReadsAt depth)
    (hfuel : json.write.length ≤ fuel) {rest : List Char} (hrest : EndsNumeral rest) :
    (∃ e, readValue fuel depth (json.write ++ rest) = .error e ∧ json.readBack? = none) ∨
      ∃ back, readValue fuel depth (json.write ++ rest) = .ok (back, rest) ∧
        json.readBack? = some back := by
  have hread := h.read fuel rest hfuel hrest
  cases hvalue : readValue fuel depth (json.write ++ rest) with
  | error e =>
      rw [hvalue] at hread
      exact .inl ⟨e, rfl, Option.map_eq_none_iff.mp hread.symm⟩
  | ok found =>
      rw [hvalue] at hread
      obtain ⟨back, hback, rfl⟩ := Option.map_eq_some_iff.mp hread.symm
      exact .inr ⟨back, rfl, hback⟩

def itemsTail (items : List Json) : List Char :=
  if items.isEmpty then [] else ',' :: writeItems items

def fieldsTail (fields : List (String × Json)) : List Char :=
  if fields.isEmpty then [] else ',' :: writeFields fields

theorem writeItems_cons (item : Json) (rest : List Json) :
    writeItems (item :: rest) = item.write ++ itemsTail rest := rfl

theorem writeFields_cons (name : String) (value : Json) (rest : List (String × Json)) :
    writeFields ((name, value) :: rest) =
      quote name ++ ':' :: (value.write ++ fieldsTail rest) := by
  rw [writeFields, writeField, List.append_assoc, List.cons_append]
  rfl

theorem endsNumeral_itemsTail (items : List Json) (rest : List Char) :
    EndsNumeral (itemsTail items ++ ']' :: rest) := by
  cases items with
  | nil =>
      rintro c ⟨⟩
      decide
  | cons item items =>
      rintro c ⟨⟩
      decide

theorem endsNumeral_fieldsTail (fields : List (String × Json)) (rest : List Char) :
    EndsNumeral (fieldsTail fields ++ '\x7d' :: rest) := by
  cases fields with
  | nil =>
      rintro c ⟨⟩
      decide
  | cons field fields =>
      rintro c ⟨⟩
      decide

section Items

variable {depth : Nat} {item : Json} {items : List Json} (rest : List Char)

theorem nextItem_of_start {text : List Char} (h : ∃ c cs, text = c :: cs ∧ IsStart c) :
    nextItem true (text ++ rest) = .ok (true, text ++ rest) ∧
      nextItem false (',' :: (text ++ rest)) = .ok (true, text ++ rest) := by
  rcases h with ⟨c, cs, rfl, hstart⟩
  have hskip := skipBlanks_cons hstart.isBlank (cs ++ rest)
  have hend := hstart.ne_bracket
  constructor
  · rw [List.cons_append, nextItem, hskip]
    simp
  · rw [nextItem, skipBlanks_cons (by decide)]
    simp [hskip, hend]

theorem readItems_step (hitem : item.ReadsAt depth) {fuel : Nat}
    (hfuel : item.write.length ≤ fuel) (hrest : EndsNumeral rest) {first : Bool}
    {done : List Json} {cs : List Char}
    (hnext : nextItem first cs = .ok (true, item.write ++ rest)) :
    (readItems (fuel + 1) depth first done cs).toOption =
      item.readBack?.bind fun back =>
        (readItems fuel depth false (back :: done) rest).toOption := by
  rw [readItems, hnext]
  dsimp only
  rcases hitem.outcome hfuel hrest with ⟨e, hvalue, hback⟩ | ⟨back, hvalue, hback⟩
  · rw [hvalue, hback]
    rfl
  · rw [hvalue, hback]
    rfl

theorem readItems_tail (h : ∀ item ∈ items, item.ReadsAt depth) (done : List Json) (fuel : Nat)
    (hfuel : (itemsTail items).length < fuel) :
    (readItems fuel depth false done (itemsTail items ++ ']' :: rest)).toOption =
      (readBackItems items).map fun back => (.array (done.reverse ++ back), rest) := by
  induction items generalizing done fuel with
  | nil =>
      obtain ⟨fuel, rfl⟩ := Nat.exists_eq_succ_of_ne_zero (Nat.ne_of_gt hfuel)
      rw [readBackItems, Option.map_some, List.append_nil]
      rfl
  | cons item items ih =>
      rcases List.forall_mem_cons.mp h with ⟨hitem, hitems⟩
      have hlength : (itemsTail (item :: items)).length =
          item.write.length + (itemsTail items).length + 1 := by
        rw [← List.length_append]
        rfl
      obtain ⟨fuel, rfl⟩ := Nat.exists_eq_succ_of_ne_zero (Nat.ne_of_gt (Nat.zero_lt_of_lt hfuel))
      have htext : itemsTail (item :: items) ++ ']' :: rest =
          ',' :: (item.write ++ (itemsTail items ++ ']' :: rest)) := by
        rw [← List.append_assoc]
        rfl
      rw [htext, readItems_step _ hitem (by omega) (endsNumeral_itemsTail items rest)
        (nextItem_of_start _ hitem.start).2, readBackItems, Option.map_bind]
      refine Option.bind_congr fun back _ => ?_
      rw [ih hitems (back :: done) fuel (by omega), Function.comp, Option.map_map]
      congr 1
      funext others
      simp

theorem readItems_write (h : ∀ item ∈ items, item.ReadsAt depth) (fuel : Nat)
    (hfuel : (writeItems items).length < fuel) :
    (readItems fuel depth true [] (writeItems items ++ ']' :: rest)).toOption =
      (readBackItems items).map fun back => (.array back, rest) := by
  obtain ⟨fuel, rfl⟩ := Nat.exists_eq_succ_of_ne_zero (Nat.ne_of_gt (Nat.zero_lt_of_lt hfuel))
  cases items with
  | nil => rfl
  | cons item items =>
      rcases List.forall_mem_cons.mp h with ⟨hitem, hitems⟩
      rw [writeItems_cons, List.length_append] at hfuel
      have hpos : 0 < item.write.length := by
        rcases hitem.start with ⟨c, cs, hwrite, -⟩
        rw [hwrite]
        exact Nat.succ_pos _
      rw [writeItems_cons, List.append_assoc, readItems_step _ hitem (by omega)
        (endsNumeral_itemsTail items rest) (nextItem_of_start _ hitem.start).1, readBackItems,
        Option.map_bind]
      refine Option.bind_congr fun back _ => ?_
      rw [readItems_tail rest hitems [back] fuel (by omega), Function.comp, Option.map_map]
      rfl

end Items

section Fields

variable {depth : Nat} {fields : List (String × Json)} (rest : List Char)

theorem readField (name : String) {value : Json} (h : value.ReadsAt depth) (fuel : Nat)
    (hfuel : value.write.length ≤ fuel) (hrest : EndsNumeral rest) :
    ∃ text, quote name ++ ':' :: (value.write ++ rest) = '"' :: text ∧
      ∀ (done : List (String × Json)) (first : Bool) (cs : List Char),
        nextName first cs = .ok (true, text) →
          (readFields (fuel + 1) depth first done cs).toOption =
            value.readBack?.bind fun back =>
              (readFields fuel depth false (Keyed.insert name back done) rest).toOption := by
  obtain ⟨text, hquote, hstring⟩ := readString_quote name (':' :: (value.write ++ rest))
  refine ⟨text ++ ':' :: (value.write ++ rest), by rw [hquote]; rfl, ?_⟩
  intro done first cs hnext
  have hcolon : readColon (':' :: (value.write ++ rest)) = .ok (value.write ++ rest) := rfl
  rw [readFields, hnext]
  dsimp only
  rw [hstring]
  dsimp only
  rw [hcolon]
  dsimp only
  rcases h.outcome hfuel hrest with ⟨e, hvalue, hback⟩ | ⟨back, hvalue, hback⟩
  · rw [hvalue, hback]
    rfl
  · rw [hvalue, hback]
    rfl

theorem readBackFields_cons (name : String) (value : Json) (rest : List (String × Json)) :
    readBackFields ((name, value) :: rest) =
      value.readBack?.bind fun back => (readBackFields rest).map ((name, back) :: ·) := by
  rw [readBackFields, readBackField, Option.bind_map]
  rfl

theorem readFields_tail (h : ∀ field ∈ fields, field.2.ReadsAt depth)
    (done : List (String × Json))
    (hascends : (Keyed.keys done ++ Keyed.keys fields).Pairwise (· < ·)) (fuel : Nat)
    (hfuel : (fieldsTail fields).length < fuel) :
    (readFields fuel depth false done (fieldsTail fields ++ '\x7d' :: rest)).toOption =
      (readBackFields fields).map fun back => (.object (done ++ back), rest) := by
  induction fields generalizing done fuel with
  | nil =>
      obtain ⟨fuel, rfl⟩ := Nat.exists_eq_succ_of_ne_zero (Nat.ne_of_gt hfuel)
      rw [readBackFields, Option.map_some, List.append_nil]
      rfl
  | cons field fields ih =>
      obtain ⟨name, value⟩ := field
      rcases List.forall_mem_cons.mp h with ⟨hvalue, hfields⟩
      have hlength : (fieldsTail ((name, value) :: fields)).length =
          (quote name).length + value.write.length + (fieldsTail fields).length + 2 := by
        show (',' :: writeFields _).length = _
        rw [writeFields_cons]
        simp only [List.length_cons, List.length_append]
        omega
      obtain ⟨fuel, rfl⟩ := Nat.exists_eq_succ_of_ne_zero (Nat.ne_of_gt (Nat.zero_lt_of_lt hfuel))
      have hlong : value.write.length ≤ fuel := by omega
      obtain ⟨text, htext, hread⟩ := readField (fieldsTail fields ++ '\x7d' :: rest) name hvalue
        fuel hlong (endsNumeral_fieldsTail fields rest)
      have hcs : fieldsTail ((name, value) :: fields) ++ '\x7d' :: rest = ',' :: '"' :: text := by
        rw [← htext]
        show ',' :: (writeFields _ ++ _) = _
        rw [writeFields_cons]
        simp only [List.append_assoc, List.cons_append]
      have hlast : ∀ other ∈ done, other.1 < name := by
        rw [List.pairwise_append] at hascends
        intro other hother
        exact hascends.2.2 other.1 (List.mem_map_of_mem hother) name List.mem_cons_self
      rw [hcs, hread done false _ rfl, readBackFields_cons, Option.map_bind]
      refine Option.bind_congr fun back _ => ?_
      have hkeys : Keyed.keys done ++ Keyed.keys ((name, value) :: fields) =
          Keyed.keys (done ++ [(name, back)]) ++ Keyed.keys fields := by
        simp [Keyed.keys]
      rw [hkeys] at hascends
      rw [Keyed.insert_last hlast, ih hfields _ hascends fuel (by omega), Function.comp,
        Option.map_map]
      congr 1
      funext others
      simp

theorem readFields_write (h : ∀ field ∈ fields, field.2.ReadsAt depth)
    (hascends : Keyed.Ascends fields) (fuel : Nat) (hfuel : (writeFields fields).length < fuel) :
    (readFields fuel depth true [] (writeFields fields ++ '\x7d' :: rest)).toOption =
      (readBackFields fields).map fun back => (.object back, rest) := by
  obtain ⟨fuel, rfl⟩ := Nat.exists_eq_succ_of_ne_zero (Nat.ne_of_gt (Nat.zero_lt_of_lt hfuel))
  cases fields with
  | nil => rfl
  | cons field fields =>
      obtain ⟨name, value⟩ := field
      rcases List.forall_mem_cons.mp h with ⟨hvalue, hfields⟩
      rw [writeFields_cons] at hfuel ⊢
      simp only [List.length_cons, List.length_append] at hfuel
      have hlong : value.write.length ≤ fuel := by omega
      obtain ⟨text, htext, hread⟩ := readField (fieldsTail fields ++ '\x7d' :: rest) name hvalue
        fuel hlong (endsNumeral_fieldsTail fields rest)
      have hcs : quote name ++ ':' :: (value.write ++ fieldsTail fields) ++ '\x7d' :: rest =
          '"' :: text := by
        rw [← htext]
        simp only [List.append_assoc, List.cons_append]
      rw [hcs, hread [] true _ rfl, readBackFields_cons, Option.map_bind]
      refine Option.bind_congr fun back _ => ?_
      rw [Function.comp, Option.map_map]
      exact readFields_tail rest hfields [(name, back)] hascends fuel (by omega)

end Fields

/-! ## Reading back -/

theorem readsAt_of_succ {depth : Nat} {json : Json}
    (start : ∃ c cs, json.write = c :: cs ∧ IsStart c)
    (read : ∀ fuel rest, json.write.length ≤ fuel + 1 → EndsNumeral rest →
      (readValue (fuel + 1) depth (json.write ++ rest)).toOption = json.readBack?.map (·, rest)) :
    json.ReadsAt depth := by
  refine ⟨start, ?_⟩
  intro fuel rest hfuel hrest
  cases fuel with
  | zero =>
      rcases start with ⟨c, cs, hwrite, -⟩
      rw [hwrite] at hfuel
      exact absurd hfuel (Nat.not_succ_le_zero _)
  | succ fuel => exact read fuel rest hfuel hrest

theorem readValue_of_numeral {json : Json} (h : ∃ numeral : NumberText,
      numeral.IsProper ∧ numeral.json? = json.readBack? ∧ numeral.write = json.write)
    (fuel depth : Nat) {rest : List Char} (hrest : EndsNumeral rest) :
    (readValue (fuel + 1) depth (json.write ++ rest)).toOption = json.readBack?.map (·, rest) := by
  obtain ⟨numeral, hproper, hjson, hwrite⟩ := h
  rw [← hwrite, readValue_numeral fuel _ hproper hrest, NumberText.toOption_ofNumeral, hjson]

theorem Fits.readsAt {depth : Nat} {json : Json} (h : json.Fits depth) :
    json.ReadsAt (depth + 1) := by
  refine readsAt_of_succ h.exists_write_eq_cons ?_
  induction h with
  | null => exact fun _ _ _ _ => rfl
  | bool _ b => cases b <;> exact fun _ _ _ _ => rfl
  | integer _ least greatest =>
      refine fun fuel rest _ => readValue_of_numeral ?_ fuel _
      exact NumberText.exists_write_integer least greatest
  | decimal _ finite =>
      refine fun fuel rest _ => readValue_of_numeral ?_ fuel _
      exact NumberText.exists_write_decimal finite
  | string _ s =>
      intro fuel rest _ _
      rw [write, readValue_quote]
      rfl
  | @array depth items h ih =>
      intro fuel rest hfuel _
      have hitems : ∀ item ∈ items, item.ReadsAt (depth + 1) := fun item hitem =>
        readsAt_of_succ (h item hitem).exists_write_eq_cons (ih item hitem)
      simp only [write, List.length_append, List.length_cons, List.length_nil] at hfuel
      have htext : write (.array items) ++ rest = '[' :: (writeItems items ++ ']' :: rest) := by
        simp [write]
      rw [htext, readValue, skipBlanks_cons (by decide), readBack?, Option.map_map]
      exact readItems_write rest hitems fuel (by omega)
  | @object depth fields ascends h ih =>
      intro fuel rest hfuel _
      have hfields : ∀ field ∈ fields, field.2.ReadsAt (depth + 1) := fun field hfield =>
        readsAt_of_succ (h field hfield).exists_write_eq_cons (ih field hfield)
      simp only [write, List.length_append, List.length_cons, List.length_nil] at hfuel
      have htext : write (.object fields) ++ rest =
          '\x7b' :: (writeFields fields ++ '\x7d' :: rest) := by
        simp [write]
      rw [htext, readValue, skipBlanks_cons (by decide), readBack?, Option.map_map]
      exact readFields_write rest hfields ascends fuel (by omega)

/-! ## What the reader gives -/

theorem integer?_bounds {numeral : NumberText} {i : Int} (h : numeral.integer? = some i) :
    leastInteger ≤ i ∧ i ≤ greatestInteger := by
  unfold NumberText.integer? at h
  dsimp only at h
  split at h
  · cases h
  split at h
  · split at h
    · next hle =>
        cases h
        exact ⟨hle.2, (neg_nonpos.mpr hle.1.le).trans (by decide)⟩
    · cases h
  · split at h
    · next hle =>
        cases h
        exact ⟨(Int.natCast_nonneg _).trans' (by decide), hle⟩
    · cases h

theorem fits_of_readNumber {negative : Bool} {cs rest : List Char} {json : Json} (depth : Nat)
    (h : readNumber negative cs = .ok (json, rest)) : json.Fits depth := by
  rcases bind_eq_ok.mp h with ⟨⟨numeral, more⟩, -, hnumeral⟩
  unfold ofNumeral at hnumeral
  dsimp only at hnumeral
  split at hnumeral
  · next found hfound =>
      cases hnumeral
      unfold NumberText.json? at hfound
      split at hfound
      · next i hinteger =>
          cases hfound
          rcases integer?_bounds hinteger with ⟨hleast, hgreatest⟩
          exact .integer depth hleast hgreatest
      · obtain ⟨n, hnumber, rfl⟩ := Option.map_eq_some_iff.mp hfound
        exact .decimal depth (NumberText.isFinite_of_number? hnumber)
  · cases hnumeral

/-- With so much fuel, whatever is read fits into the levels that may be opened. -/
structure GivesFitting (fuel : Nat) : Prop where
  value : ∀ {depth cs json rest}, readValue fuel (depth + 1) cs = .ok (json, rest) →
    json.Fits depth
  items : ∀ {depth first done cs json rest}, (∀ item ∈ done, Fits depth item) →
    readItems fuel (depth + 1) first done cs = .ok (json, rest) → json.Fits (depth + 1)
  fields : ∀ {depth first done cs json rest}, Keyed.Ascends done →
    (∀ field ∈ done, Fits depth field.2) →
      readFields fuel (depth + 1) first done cs = .ok (json, rest) → json.Fits (depth + 1)

namespace GivesFitting

variable {fuel depth : Nat} (h : GivesFitting fuel) {first : Bool} {cs rest : List Char}
  {json : Json}
include h

theorem fits_of_readValue (hread : readValue (fuel + 1) (depth + 1) cs = .ok (json, rest)) :
    json.Fits depth := by
  have hopened : ∀ {text : List Char} {reading : Reading Json} {a : Json × List Char},
      (if depth + 1 ≤ 1 then failedAhead .tooDeep text else reading) = .ok a →
        (∃ less, depth = less + 1) ∧ reading = .ok a := by
    intro text reading a hread
    split at hread
    · cases hread
    · exact ⟨⟨depth - 1, by omega⟩, hread⟩
  rw [readValue] at hread
  split at hread
  · cases hread
  rcases ite_eq_iff.mp hread with ⟨-, hword⟩ | ⟨-, hread⟩
  · rcases map_eq_ok.mp hword with ⟨_, _, ⟨⟩⟩
    exact .null depth
  rcases ite_eq_iff.mp hread with ⟨-, hword⟩ | ⟨-, hread⟩
  · rcases map_eq_ok.mp hword with ⟨_, _, ⟨⟩⟩
    exact .bool depth true
  rcases ite_eq_iff.mp hread with ⟨-, hword⟩ | ⟨-, hread⟩
  · rcases map_eq_ok.mp hword with ⟨_, _, ⟨⟩⟩
    exact .bool depth false
  rcases ite_eq_iff.mp hread with ⟨-, hnumber⟩ | ⟨-, hread⟩
  · exact fits_of_readNumber depth hnumber
  rcases ite_eq_iff.mp hread with ⟨-, hnumber⟩ | ⟨-, hread⟩
  · exact fits_of_readNumber depth hnumber
  rcases ite_eq_iff.mp hread with ⟨-, hstring⟩ | ⟨-, hread⟩
  · rcases map_eq_ok.mp hstring with ⟨_, _, ⟨⟩⟩
    exact .string depth _
  rcases ite_eq_iff.mp hread with ⟨-, harray⟩ | ⟨-, hread⟩
  · rcases hopened harray with ⟨⟨less, rfl⟩, hitems⟩
    exact h.items (List.forall_mem_nil (Fits less)) hitems
  rcases ite_eq_iff.mp hread with ⟨-, hobject⟩ | ⟨-, hread⟩
  · rcases hopened hobject with ⟨⟨less, rfl⟩, hfields⟩
    have hascends : Keyed.Ascends ([] : List (String × Json)) := List.Pairwise.nil
    exact h.fields hascends (List.forall_mem_nil _) hfields
  · cases hread

theorem fits_of_readItems {done : List Json} (hdone : ∀ item ∈ done, Fits depth item)
    (hread : readItems (fuel + 1) (depth + 1) first done cs = .ok (json, rest)) :
    json.Fits (depth + 1) := by
  rw [readItems] at hread
  split at hread
  · cases hread
  · cases hread
    exact .array fun item hitem => hdone item (List.mem_reverse.mp hitem)
  · split at hread
    · cases hread
    · next hvalue => exact h.items (List.forall_mem_cons.mpr ⟨h.value hvalue, hdone⟩) hread

theorem fits_of_readFields {done : List (String × Json)} (hascends : Keyed.Ascends done)
    (hdone : ∀ field ∈ done, Fits depth field.2)
    (hread : readFields (fuel + 1) (depth + 1) first done cs = .ok (json, rest)) :
    json.Fits (depth + 1) := by
  rw [readFields] at hread
  split at hread
  · cases hread
  · cases hread
    exact .object hascends hdone
  · split at hread
    · cases hread
    split at hread
    · cases hread
    split at hread
    · cases hread
    · next hvalue =>
        refine h.fields (hascends.insert _ _) ?_ hread
        intro field hfield
        rcases Keyed.mem_insert hfield with rfl | hmem
        · exact h.value hvalue
        · exact hdone field hmem

end GivesFitting

theorem givesFitting (fuel : Nat) : GivesFitting fuel := by
  induction fuel with
  | zero => exact ⟨nofun, fun _ => nofun, fun _ _ => nofun⟩
  | succ fuel ih => exact ⟨ih.fits_of_readValue, ih.fits_of_readItems, ih.fits_of_readFields⟩

/-! ## Texts -/

/-- The compact text of the value is read as the value. -/
def ReadsBack (json : Json) : Prop :=
  ofText json.render = .ok json

theorem ofText_eq_ok_iff {text : String} {json : Json} :
    ofText text = .ok json ↔ readWholeText text.toList = .ok json := by
  unfold ofText
  cases readWholeText text.toList with
  | error e => simp [Except.mapError]
  | ok found => simp [Except.mapError]

/--
The values that are read back from their compact text are those that the reader gives at all, if
the numerals of the numbers in them are read as these numbers.
-/
theorem readsBack_iff {json : Json} :
    json.ReadsBack ↔ json.Fits (nestingLimit - 1) ∧ json.readBack? = some json := by
  have hwhole : ∀ h : json.Fits (nestingLimit - 1),
      (readValue (2 * json.write.length + 2) nestingLimit json.write).toOption =
        json.readBack?.map (·, []) := by
    intro h
    have hread := h.readsAt.read (2 * json.write.length + 2) [] (by omega) nofun
    rwa [List.append_nil] at hread
  unfold ReadsBack
  rw [ofText_eq_ok_iff, render, String.toList_ofList]
  constructor
  · intro h
    rcases bind_eq_ok.mp h with ⟨⟨found, rest⟩, hread, hmore⟩
    rcases bind_eq_ok.mp hmore with ⟨_, -, ⟨⟩⟩
    have hfits : json.Fits (nestingLimit - 1) := (givesFitting _).value hread
    have hend := hwhole hfits
    rw [hread] at hend
    obtain ⟨back, hback, heq⟩ := Option.map_eq_some_iff.mp hend.symm
    cases heq
    exact ⟨hfits, hback⟩
  · rintro ⟨hfits, hback⟩
    have hread := hwhole hfits
    rw [hback] at hread
    exact bind_eq_ok.mpr ⟨(json, []), toOption_eq_some_iff.mp hread, rfl⟩

/-! ## Short decimals -/

/-- The numbers in the value that are no integers are short. -/
inductive HasShortNumbers : Json → Prop
  | null : HasShortNumbers .null
  | bool (b : Bool) : HasShortNumbers (.bool b)
  | integer (i : Int) : HasShortNumbers (.integer i)
  | decimal {n : Number} (h : n.IsShort) : HasShortNumbers (.decimal n)
  | string (s : String) : HasShortNumbers (.string s)
  | array {items : List Json} (h : ∀ item ∈ items, HasShortNumbers item) :
      HasShortNumbers (.array items)
  | object {fields : List (String × Json)} (h : ∀ field ∈ fields, HasShortNumbers field.2) :
      HasShortNumbers (.object fields)

theorem Fits.readBack?_eq {depth : Nat} {json : Json} (h : json.Fits depth)
    (hshort : json.HasShortNumbers) : json.readBack? = some json := by
  induction h with
  | null | bool | integer | string => rfl
  | decimal _ finite =>
      cases hshort with
      | decimal hnumber => exact NumberText.readBack?_of_isShort finite hnumber
  | array _ ih =>
      cases hshort with
      | array hitems =>
          rw [readBack?, readBackItems_eq_some_iff.mpr fun item hitem =>
            ih item hitem (hitems item hitem)]
          rfl
  | object _ _ ih =>
      cases hshort with
      | object hfields =>
          rw [readBack?, readBackFields_eq_some fun field hfield =>
            ih field hfield (hfields field hfield)]
          rfl

/-- A value that the reader may give is read back if the decimals in it are short. -/
theorem readsBack_of_short {json : Json} (h : json.Fits (nestingLimit - 1))
    (hshort : json.HasShortNumbers) : json.ReadsBack :=
  readsBack_iff.mpr ⟨h, h.readBack?_eq hshort⟩

end Json
end RecordFilter
