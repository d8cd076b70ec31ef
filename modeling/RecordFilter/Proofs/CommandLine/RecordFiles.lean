import RecordFilter.Files
import RecordFilter.Proofs.Json.Line
import RecordFilter.Proofs.Json.RoundTrip
import RecordFilter.Proofs.Text.Part
import RecordFilter.Proofs.Text.Split

/-!
# Files of records

Records come in two formats, and the first character that is no white space tells which one it
is.  What is around the lines does not count: a text breaks into lines where it has line breaks,
each line is trimmed, and those of which nothing is left are dropped.

A compact JSON text is one line that trimming leaves as it is, and it is read back as its value.
So the values of a list are found again in both formats, unless the first one is an array: then
the lines are taken for one array.
-/

namespace RecordFilter

/-! ## Graphic characters -/

def IsGraphic (c : Char) : Prop :=
  0x21 ≤ c.toNat ∧ c.toNat ≤ 0x7E

instance : DecidablePred IsGraphic :=
  fun _ => inferInstanceAs (Decidable (_ ∧ _))

theorem IsGraphic.isSpace {c : Char} (h : IsGraphic c) : isSpace c = false := by
  have hcodes : ∀ code ∈ Space.codes, ¬(0x21 ≤ code ∧ code ≤ 0x7E) := by
    decide
  exact Bool.eq_false_iff.mpr fun hspace => hcodes c.toNat (Space.mem_codes hspace) h

theorem isGraphic_of_isDigit {c : Char} (h : c.isDigit = true) : IsGraphic c := by
  rcases Char.isDigit_iff_toNat.mp h with ⟨hfirst, hlast⟩
  exact ⟨hfirst.trans' (by decide), hlast.trans (by decide)⟩

namespace Json

theorem IsStart.isGraphic {c : Char} (h : IsStart c) : IsGraphic c := by
  rcases h with hdigit | hmem
  · exact isGraphic_of_isDigit hdigit
  · simp only [List.mem_cons, List.not_mem_nil, or_false] at hmem
    rcases hmem with rfl | rfl | rfl | rfl | rfl | rfl | rfl <;> decide

theorem isGraphic_intDigits (i : Int) : ∀ c ∈ intDigits i, IsGraphic c := by
  have hdigits : ∀ c ∈ natDigits i.natAbs, IsGraphic c :=
    fun c hc => isGraphic_of_isDigit (isDigit_of_mem_natDigits hc)
  unfold intDigits
  split
  · exact List.forall_mem_cons.mpr ⟨by decide, hdigits⟩
  · exact hdigits

theorem NumberText.IsProper.isGraphic_write {numeral : NumberText} (h : numeral.IsProper) :
    ∀ c ∈ numeral.write, IsGraphic c := by
  have hwhole : ∀ c ∈ numeral.whole, IsGraphic c :=
    fun c hc => isGraphic_of_isDigit (h.whole.isDigit c hc)
  have hfraction : ∀ c ∈ numeral.spellFraction, IsGraphic c := by
    unfold NumberText.spellFraction
    split
    · next digits hdigits =>
        refine List.forall_mem_cons.mpr ⟨by decide, fun c hc => ?_⟩
        exact isGraphic_of_isDigit ((h.fraction digits hdigits).2 c hc)
    · exact List.forall_mem_nil _
  have hexponent : ∀ c ∈ numeral.spellExponent, IsGraphic c := by
    unfold NumberText.spellExponent
    split
    · refine List.forall_mem_append.mpr ⟨List.forall_mem_cons.mpr ⟨by decide, ?_⟩,
        isGraphic_intDigits _⟩
      split
      · exact List.forall_mem_singleton.mpr (by decide)
      · exact List.forall_mem_nil _
    · exact List.forall_mem_nil _
  have hspell : ∀ c ∈ numeral.spell, IsGraphic c :=
    List.forall_mem_append.mpr ⟨List.forall_mem_append.mpr ⟨hwhole, hfraction⟩, hexponent⟩
  unfold NumberText.write
  split
  · exact List.forall_mem_cons.mpr ⟨by decide, hspell⟩
  · exact hspell

theorem exists_eq_concat_of_isGraphic {text : List Char} (hne : text ≠ [])
    (h : ∀ c ∈ text, IsGraphic c) : ∃ cs c, text = cs ++ [c] ∧ IsGraphic c :=
  ⟨text.dropLast, text.getLast hne, (List.dropLast_append_getLast hne).symm,
    h _ (List.getLast_mem hne)⟩

theorem NumberText.IsProper.exists_write_eq_concat {numeral : NumberText} (h : numeral.IsProper) :
    ∃ cs c, numeral.write = cs ++ [c] ∧ IsGraphic c := by
  refine exists_eq_concat_of_isGraphic ?_ h.isGraphic_write
  rcases h.exists_write_eq_cons with ⟨c, cs, hwrite, -⟩
  rw [hwrite]
  exact List.cons_ne_nil c cs

theorem Fits.exists_write_eq_concat {depth : Nat} {json : Json} (h : json.Fits depth) :
    ∃ cs c, json.write = cs ++ [c] ∧ IsGraphic c := by
  cases h with
  | null => exact ⟨['n', 'u', 'l'], 'l', rfl, by decide⟩
  | bool _ b =>
      cases b with
      | true => exact ⟨['t', 'r', 'u'], 'e', rfl, by decide⟩
      | false => exact ⟨['f', 'a', 'l', 's'], 'e', rfl, by decide⟩
  | integer _ least greatest =>
      obtain ⟨numeral, hproper, -, hwrite⟩ := NumberText.exists_write_integer least greatest
      rw [write, ← hwrite]
      exact hproper.exists_write_eq_concat
  | decimal _ finite =>
      obtain ⟨numeral, hproper, -, hwrite⟩ := NumberText.exists_write_decimal finite
      rw [write, ← hwrite]
      exact hproper.exists_write_eq_concat
  | string _ s => exact ⟨_, '"', rfl, by decide⟩
  | array => exact ⟨_, ']', rfl, by decide⟩
  | object => exact ⟨_, '\x7d', rfl, by decide⟩

theorem Fits.exists_array {depth : Nat} {json : Json} (h : json.Fits depth) {cs : List Char}
    (hbracket : json.write = '[' :: cs) : ∃ items, json = .array items := by
  have hnumeral : ∀ {numeral : NumberText}, numeral.IsProper → numeral.write ≠ '[' :: cs := by
    intro numeral hproper heq
    rcases hproper.exists_write_eq_cons with ⟨c, more, hwrite, hc⟩
    obtain rfl : c = '[' := (List.cons.inj (hwrite.symm.trans heq)).1
    exact absurd hc (by decide)
  cases h with
  | bool _ b => cases b <;> cases hbracket
  | integer _ least greatest =>
      obtain ⟨numeral, hproper, -, hwrite⟩ := NumberText.exists_write_integer least greatest
      exact absurd (hwrite.trans hbracket) (hnumeral hproper)
  | decimal _ finite =>
      obtain ⟨numeral, hproper, -, hwrite⟩ := NumberText.exists_write_decimal finite
      exact absurd (hwrite.trans hbracket) (hnumeral hproper)
  | @array _ items _ => exact ⟨items, rfl⟩
  | _ => cases hbracket

theorem Fits.succ {depth : Nat} {json : Json} (h : json.Fits depth) : json.Fits (depth + 1) := by
  induction h with
  | null depth => exact .null _
  | bool depth b => exact .bool _ b
  | integer depth least greatest => exact .integer _ least greatest
  | decimal depth finite => exact .decimal _ finite
  | string depth s => exact .string _ s
  | array _ ih => exact .array ih
  | object ascends _ ih => exact .object ascends ih

theorem ReadsBack.of_mem {items : List Json} (h : (Json.array items).ReadsBack) {item : Json}
    (hitem : item ∈ items) : item.ReadsBack := by
  rw [readsBack_iff] at h ⊢
  obtain ⟨hfits, hback⟩ := h
  constructor
  · have hall : ∀ {depth : Nat}, (Json.array items).Fits depth → item.Fits depth := by
      intro depth h
      cases h with
      | array h => exact (h item hitem).succ
    exact hall hfits
  · obtain ⟨back, hitems, heq⟩ := Option.map_eq_some_iff.mp hback
    cases heq
    exact readBackItems_eq_some_iff.mp hitems item hitem

end Json

/-! ## Trimming -/

structure IsTrimmed (text : List Char) : Prop where
  first : ∀ c ∈ text.head?, isSpace c = false
  last : ∀ c ∈ text.getLast?, isSpace c = false

theorem isTrimmed_nil : IsTrimmed [] := by
  constructor <;> rintro c ⟨⟩

theorem Json.Fits.isTrimmed_write {depth : Nat} {json : Json} (h : json.Fits depth) :
    IsTrimmed json.write where
  first := by
    obtain ⟨c, cs, hwrite, hc⟩ := h.exists_write_eq_cons
    rw [hwrite]
    rintro _ ⟨⟩
    exact hc.isGraphic.isSpace
  last := by
    obtain ⟨cs, c, hwrite, hc⟩ := h.exists_write_eq_concat
    rw [hwrite, List.getLast?_concat]
    rintro _ ⟨⟩
    exact hc.isSpace

theorem trimStart_append {space rest : List Char} (h : ∀ c ∈ space, isSpace c = true) :
    trimStart (space ++ rest) = trimStart rest :=
  List.dropWhile_append_of_pos h

theorem trimStart_of_head? {text : List Char} (h : ∀ c ∈ text.head?, isSpace c = false) :
    trimStart text = text := by
  cases text with
  | nil => rfl
  | cons c rest => exact List.dropWhile_cons_of_neg (Bool.eq_false_iff.mp (h c rfl))

theorem trim_append {before text after : List Char} (hbefore : ∀ c ∈ before, isSpace c = true)
    (hafter : ∀ c ∈ after, isSpace c = true) (h : IsTrimmed text) :
    trim (before ++ text ++ after) = text := by
  have hreverse : ∀ c ∈ after.reverse, isSpace c = true := fun c hc =>
    hafter c (List.mem_reverse.mp hc)
  have hend : trimStart (text ++ after).reverse = text.reverse := by
    rw [List.reverse_append, trimStart_append hreverse, trimStart_of_head?]
    rw [List.head?_reverse]
    exact h.last
  unfold trim
  rw [List.append_assoc, trimStart_append hbefore]
  cases text with
  | nil =>
      have hnone : trimStart after = [] := by
        rw [← List.append_nil after, trimStart_append hafter]
        rfl
      rw [List.nil_append, hnone]
      rfl
  | cons c rest =>
      have hstart : trimStart (c :: rest ++ after) = c :: rest ++ after :=
        trimStart_of_head? h.first
      rw [hstart, hend, List.reverse_reverse]

theorem exists_trim_eq_cons {c : Char} (h : isSpace c = false) (rest : List Char) :
    ∃ more, trim (c :: rest) = c :: more := by
  have hstart : ∀ text : List Char, trimStart (c :: text) = c :: text := fun text =>
    trimStart_of_head? (by rintro d ⟨⟩; exact h)
  unfold trim
  rw [hstart, List.reverse_cons, trimStart, List.dropWhile_append]
  split
  · exact ⟨[], congrArg List.reverse (hstart [])⟩
  · exact ⟨_, List.reverse_append⟩

/-! ## Lines -/

namespace FileText

section Lines

variable {line : List Char}

theorem recordLines_append (h : '\n' ∉ line) (rest : List Char) :
    recordLines (line ++ '\n' :: rest) = recordLines line ++ recordLines rest := by
  unfold recordLines
  rw [splitAtMark_append h, splitAtMark_of_not_mem h, ← List.filter_append, ← List.map_append]
  rfl

theorem recordLines_of_not_mem (h : '\n' ∉ line) :
    recordLines line = if (trim line).isEmpty then [] else [trim line] := by
  unfold recordLines
  rw [splitAtMark_of_not_mem h, List.map_singleton, List.filter_singleton]
  cases (trim line).isEmpty <;> rfl

theorem exists_line (text : List Char) : ∃ line, '\n' ∉ line ∧
    (text = line ∨ ∃ rest, text = line ++ '\n' :: rest) := by
  by_cases h : '\n' ∈ text
  · rcases List.eq_append_cons_of_mem h with ⟨line, rest, heq, hline⟩
    exact ⟨line, hline, .inr ⟨rest, heq⟩⟩
  · exact ⟨text, h, .inl rfl⟩

theorem recordLines_cons_space {c : Char} (h : isSpace c = true) (text : List Char) :
    recordLines (c :: text) = recordLines text := by
  by_cases hbreak : c = '\n'
  · subst hbreak
    exact recordLines_append List.not_mem_nil text
  · have htrim : ∀ line, trim (c :: line) = trim line := by
      intro line
      have hstart : trimStart (c :: line) = trimStart line := List.dropWhile_cons_of_pos h
      rw [trim, hstart, trim]
    have hline : ∀ line, '\n' ∉ line → recordLines (c :: line) = recordLines line := by
      intro line hline
      have hcons : '\n' ∉ c :: line := List.not_mem_cons_of_ne_of_not_mem (Ne.symm hbreak) hline
      rw [recordLines_of_not_mem hcons, recordLines_of_not_mem hline, htrim]
    rcases exists_line text with ⟨line, hbare, rfl | ⟨rest, rfl⟩⟩
    · exact hline text hbare
    · have hcons : '\n' ∉ c :: line := List.not_mem_cons_of_ne_of_not_mem (Ne.symm hbreak) hbare
      rw [← List.cons_append, recordLines_append hcons, recordLines_append hbare, hline line hbare]

theorem recordLines_trimStart (text : List Char) :
    recordLines (trimStart text) = recordLines text := by
  induction text with
  | nil => rfl
  | cons c text ih =>
      cases h : isSpace c with
      | true => rw [trimStart, List.dropWhile_cons_of_pos h, recordLines_cons_space h, ← ih]; rfl
      | false => rw [trimStart, List.dropWhile_cons_of_neg (Bool.eq_false_iff.mp h)]

theorem exists_recordLines_eq_cons {c : Char} (h : isSpace c = false) (text : List Char) :
    ∃ first lines, recordLines (c :: text) = (c :: first) :: lines := by
  have hbreak : c ≠ '\n' := by
    rintro rfl
    exact absurd h (by decide)
  have hcons : ∀ line, '\n' ∉ line → '\n' ∉ c :: line := fun line =>
    List.not_mem_cons_of_ne_of_not_mem hbreak.symm
  have hline : ∀ line, '\n' ∉ line → ∃ first, recordLines (c :: line) = [c :: first] := by
    intro line hline
    rcases exists_trim_eq_cons h line with ⟨first, hfirst⟩
    rw [recordLines_of_not_mem (hcons line hline), hfirst]
    exact ⟨first, rfl⟩
  rcases exists_line text with ⟨line, hbare, rfl | ⟨rest, rfl⟩⟩
  · rcases hline text hbare with ⟨first, hfirst⟩
    exact ⟨first, [], hfirst⟩
  · rcases hline line hbare with ⟨first, hfirst⟩
    refine ⟨first, recordLines rest, ?_⟩
    rw [← List.cons_append, recordLines_append (hcons line hbare), hfirst]
    rfl

theorem mem_recordLines {text : List Char} (h : line ∈ splitAtMark '\n' text)
    (hblank : trim line ≠ []) : trim line ∈ recordLines text := by
  refine List.mem_filter.mpr ⟨List.mem_map_of_mem h, ?_⟩
  cases hline : trim line with
  | nil => exact absurd hline hblank
  | cons c rest => rfl

end Lines

/-! ## Loading -/

theorem recordsOf_eq_mapM {text : String} (h : (trimStart text.toList).head? ≠ some '[') :
    recordsOf text = (recordLines text.toList).mapM readJson := by
  unfold recordsOf
  rw [← recordLines_trimStart text.toList]
  split
  · next hbracket =>
      rw [hbracket] at h
      exact absurd rfl h
  · rfl

theorem recordsOf_array {space : List Char} (h : ∀ c ∈ space, isSpace c = true)
    {items : List Json} (hreads : (Json.array items).ReadsBack) :
    recordsOf (String.ofList (space ++ (Json.array items).write)) = .ok items := by
  have hwrite : (Json.array items).write = '[' :: (Json.writeItems items ++ [']']) := rfl
  have hread : readJson (Json.array items).write = .ok (.array items) := by
    unfold readJson
    rw [show Json.ofText (String.ofList (Json.array items).write) = _ from hreads]
    rfl
  have htrim : trimStart (String.ofList (space ++ (Json.array items).write)).toList =
      (Json.array items).write := by
    rw [String.toList_ofList, trimStart_append h, trimStart_of_head?]
    rintro c ⟨⟩
    exact IsGraphic.isSpace (by decide)
  rw [hwrite] at hread
  unfold recordsOf
  rw [htrim.trans hwrite]
  show (readJson _ >>= _) = _
  rw [hread]
  rfl

/-! ## One value a line -/

/-- A line of a file: a value or nothing, with white space around it. -/
structure RecordLine where
  before : List Char
  value : Option Json
  after : List Char

inductive LineEnd where
  | lf
  | crlf

def LineEnd.chars : LineEnd → List Char
  | .lf => ['\n']
  | .crlf => ['\r', '\n']

namespace RecordLine

def chars (line : RecordLine) : List Char :=
  line.before ++ (line.value.map Json.write).getD [] ++ line.after

def IsPadding (space : List Char) : Prop :=
  ∀ c ∈ space, isSpace c = true ∧ c ≠ '\n'

instance : DecidablePred IsPadding :=
  fun space => List.decidableBAll (fun c : Char => isSpace c = true ∧ c ≠ '\n') space

structure IsPadded (line : RecordLine) : Prop where
  before : IsPadding line.before
  after : IsPadding line.after

instance (line : RecordLine) : Decidable line.IsPadded :=
  decidable_of_iff (IsPadding line.before ∧ IsPadding line.after)
    ⟨fun h => ⟨h.1, h.2⟩, fun h => ⟨h.before, h.after⟩⟩

variable {line : RecordLine}

theorem newline_not_mem_chars (h : line.IsPadded) : '\n' ∉ line.chars := by
  have hvalue : '\n' ∉ (line.value.map Json.write).getD [] := by
    cases line.value with
    | none => exact List.not_mem_nil
    | some json => exact (Json.isUncontrolled_write json).newline_not_mem
  intro hmem
  rcases List.mem_append.mp hmem with hfront | hafter
  · rcases List.mem_append.mp hfront with hbefore | hmem
    · exact (h.before _ hbefore).2 rfl
    · exact hvalue hmem
  · exact (h.after _ hafter).2 rfl

theorem recordLines_chars (h : line.IsPadded) (hvalue : ∀ json ∈ line.value, json.ReadsBack) :
    recordLines line.chars = line.value.toList.map Json.write := by
  have hbefore : ∀ c ∈ line.before, isSpace c = true := fun c hc => (h.before c hc).1
  have hafter : ∀ c ∈ line.after, isSpace c = true := fun c hc => (h.after c hc).1
  rw [recordLines_of_not_mem (newline_not_mem_chars h)]
  unfold chars
  cases hjson : line.value with
  | none =>
      rw [Option.map_none, Option.getD_none, trim_append hbefore hafter isTrimmed_nil]
      rfl
  | some json =>
      have hfits := (Json.readsBack_iff.mp (hvalue json hjson)).1
      have hwritten : ¬json.write.isEmpty = true := by
        obtain ⟨c, cs, hwrite, -⟩ := hfits.exists_write_eq_cons
        rw [hwrite]
        exact Bool.false_ne_true
      rw [Option.map_some, Option.getD_some, trim_append hbefore hafter hfits.isTrimmed_write,
        if_neg hwritten]
      rfl

theorem exists_chars_append (h : line.IsPadded) (ending : LineEnd) : ∃ padded : RecordLine,
    padded.IsPadded ∧ padded.value = line.value ∧
      line.chars ++ ending.chars = padded.chars ++ ['\n'] := by
  cases ending with
  | lf => exact ⟨line, h, rfl, rfl⟩
  | crlf =>
      refine ⟨⟨line.before, line.value, line.after ++ ['\r']⟩, ⟨h.before, ?_⟩, rfl, ?_⟩
      · refine List.forall_mem_append.mpr ⟨h.after, List.forall_mem_singleton.mpr ⟨?_, by decide⟩⟩
        decide
      · simp [chars, LineEnd.chars]

end RecordLine

/-- The text of lines that end, and a last line that does not. -/
def linedText (lines : List (RecordLine × LineEnd)) (last : RecordLine) : List Char :=
  (lines.flatMap fun line => line.1.chars ++ line.2.chars) ++ last.chars

def linedValues (lines : List (RecordLine × LineEnd)) (last : RecordLine) : List Json :=
  lines.filterMap (fun line => line.1.value) ++ last.value.toList

variable {lines : List (RecordLine × LineEnd)} {last : RecordLine}

theorem recordLines_linedText (hlines : ∀ line ∈ lines, line.1.IsPadded) (hlast : last.IsPadded)
    (hreads : ∀ json ∈ linedValues lines last, json.ReadsBack) :
    recordLines (linedText lines last) = (linedValues lines last).map Json.write := by
  induction lines with
  | nil =>
      refine RecordLine.recordLines_chars hlast fun json hjson => hreads json ?_
      exact Option.mem_toList.mpr hjson
  | cons line lines ih =>
      rcases List.forall_mem_cons.mp hlines with ⟨hline, hrest⟩
      obtain ⟨padded, hpadded, hvalue, hchars⟩ := RecordLine.exists_chars_append hline line.2
      have hvalues : linedValues (line :: lines) last =
          line.1.value.toList ++ linedValues lines last := by
        unfold linedValues
        cases hvalue : line.1.value <;> simp [hvalue]
      have htext : linedText (line :: lines) last =
          padded.chars ++ '\n' :: linedText lines last := by
        unfold linedText
        rw [List.flatMap_cons, hchars]
        simp
      rw [hvalues] at hreads ⊢
      rcases List.forall_mem_append.mp hreads with ⟨hfirst, hothers⟩
      rw [htext, recordLines_append (RecordLine.newline_not_mem_chars hpadded), ih hrest hothers,
        RecordLine.recordLines_chars hpadded, hvalue, List.map_append]
      intro json hjson
      exact hfirst json (Option.mem_toList.mpr (hvalue ▸ hjson))

theorem mapM_readJson {items : List Json} (h : ∀ json ∈ items, json.ReadsBack) :
    (items.map Json.write).mapM readJson = .ok items := by
  refine mapM_eq_ok_iff.mpr ?_
  rw [List.forall₂_map_left_iff]
  refine List.forall₂_same.mpr fun json hjson => ?_
  unfold readJson
  rw [show Json.ofText (String.ofList json.write) = _ from h json hjson]
  rfl

theorem head?_trimStart_linedText (hlines : ∀ line ∈ lines, line.1.IsPadded)
    (hlast : last.IsPadded) (hreads : ∀ json ∈ linedValues lines last, json.ReadsBack)
    (hfirst : ∀ items, (linedValues lines last).head? ≠ some (.array items)) :
    (trimStart (linedText lines last)).head? ≠ some '[' := by
  intro hbracket
  obtain ⟨text, htext⟩ : ∃ text, trimStart (linedText lines last) = '[' :: text :=
    List.head?_eq_some_iff.mp hbracket
  have hfound := recordLines_linedText hlines hlast hreads
  rw [← recordLines_trimStart, htext] at hfound
  obtain ⟨first, others, heq⟩ := exists_recordLines_eq_cons (c := '[')
    (IsGraphic.isSpace (by decide)) text
  rw [heq] at hfound
  cases hvalues : linedValues lines last with
  | nil =>
      rw [hvalues] at hfound
      cases hfound
  | cons json values =>
      rw [hvalues, List.map_cons] at hfound
      have hjson : json.ReadsBack := hreads json (hvalues ▸ List.mem_cons_self)
      obtain ⟨items, rfl⟩ := (Json.readsBack_iff.mp hjson).1.exists_array
        (List.cons.inj hfound).1.symm
      exact hfirst items (hvalues ▸ rfl)

/-! ## Lines that are no JSON -/

theorem exists_failure?_readJson {line : List Char}
    (h : ∀ json, Json.ofText (String.ofList line) ≠ .ok json) :
    ∃ e, failure? (readJson line) = some e := by
  unfold readJson
  cases hread : Json.ofText (String.ofList line) with
  | error e => exact ⟨.json e, rfl⟩
  | ok json => exact absurd hread (h json)

theorem exists_json_of_failure? {line : List Char} {e : FilterError}
    (h : failure? (readJson line) = some e) : ∃ cause, e = .json cause := by
  unfold readJson at h
  cases hread : Json.ofText (String.ofList line) with
  | error cause =>
      rw [hread] at h
      exact ⟨cause, (Option.some.inj h).symm⟩
  | ok json =>
      rw [hread] at h
      cases h

theorem exists_recordsOf_eq_error {text : String} {line : List Char}
    (hbracket : (trimStart text.toList).head? ≠ some '[')
    (hline : line ∈ splitAtMark '\n' text.toList) (hblank : trim line ≠ [])
    (h : ∀ json, Json.ofText (String.ofList (trim line)) ≠ .ok json) :
    ∃ cause, recordsOf text = .error (.json cause) := by
  rw [recordsOf_eq_mapM hbracket]
  obtain ⟨e, hfailure⟩ := exists_failure?_readJson h
  have hsome : ((recordLines text.toList).findSome? fun line =>
      failure? (readJson line)).isSome = true := by
    rw [List.findSome?_isSome_iff]
    exact ⟨trim line, mem_recordLines hline hblank, Option.isSome_of_eq_some hfailure⟩
  obtain ⟨first, hfirst⟩ := Option.isSome_iff_exists.mp hsome
  obtain ⟨other, -, hother⟩ := List.exists_of_findSome?_eq_some hfirst
  obtain ⟨cause, rfl⟩ := exists_json_of_failure? hother
  exact ⟨cause, failure?_eq_some_iff.mp ((failure?_mapM _).trans hfirst)⟩

/-! ## The formats agree -/

theorem records_ok (text : String) :
    records (.ok text) = (List.map Value.ofJson) <$> recordsOf text := by
  show (recordsOf text >>= _) = _
  cases recordsOf text <;> rfl

/--
A list whose compact text is read back, and which does not start with an array, is loaded in
both formats as the values in order.  A line that is neither blank nor JSON fails the load.
-/
theorem records_of_either_format :
    (∀ js : List Json, (Json.array js).ReadsBack → (∀ items, js.head? ≠ some (.array items)) →
      (∀ space, (∀ c ∈ space, isSpace c = true) →
        records (.ok (String.ofList (space ++ (Json.array js).write))) =
          .ok (js.map Value.ofJson)) ∧
      ∀ lines last, (∀ line ∈ lines, line.1.IsPadded) → last.IsPadded →
        linedValues lines last = js →
          records (.ok (String.ofList (linedText lines last))) = .ok (js.map Value.ofJson)) ∧
    ∀ (text : String) (line : List Char), (trimStart text.toList).head? ≠ some '[' →
      line ∈ splitAtMark '\n' text.toList → trim line ≠ [] →
        (∀ json, Json.ofText (String.ofList (trim line)) ≠ .ok json) →
          ∃ cause, records (.ok text) = .error (.json cause) := by
  constructor
  · intro js hreads hfirst
    refine ⟨?_, ?_⟩
    · intro space hspace
      rw [records_ok, recordsOf_array hspace hreads]
      rfl
    · rintro lines last hlines hlast rfl
      have hvalues : ∀ json ∈ linedValues lines last, json.ReadsBack := fun json hjson =>
        hreads.of_mem hjson
      have hbracket := head?_trimStart_linedText hlines hlast hvalues hfirst
      rw [← String.toList_ofList (l := linedText lines last)] at hbracket
      rw [records_ok, recordsOf_eq_mapM hbracket, String.toList_ofList,
        recordLines_linedText hlines hlast hvalues, mapM_readJson hvalues]
      rfl
  · intro text line hbracket hline hblank h
    obtain ⟨cause, herror⟩ := exists_recordsOf_eq_error hbracket hline hblank h
    exact ⟨cause, by rw [records_ok, herror]; rfl⟩

theorem records_of_either_format_of_blank_lines :
    let js : List Json := [.string "a\nb", .null]
    let lines : List (RecordLine × LineEnd) := [(⟨[], none, [' ']⟩, .lf),
      (⟨['\t'], some (.string "a\nb"), [' ']⟩, .crlf), (⟨[], none, []⟩, .crlf)]
    let last : RecordLine := ⟨[' '], some .null, []⟩
    (Json.array js).ReadsBack ∧
      records (.ok (String.ofList (' ' :: (Json.array js).write))) = .ok [.string "a\nb", .null] ∧
      records (.ok (String.ofList (linedText lines last))) = .ok [.string "a\nb", .null] ∧
      ∃ cause, records (.ok "null\nx") = .error (.json cause) := by
  intro js lines last
  have hreads : (Json.array js).ReadsBack := by
    refine Json.readsBack_of_short (.array ?_) (.array ?_)
    · rw [List.forall_mem_cons, List.forall_mem_singleton]
      exact ⟨.string _ _, .null _⟩
    · rw [List.forall_mem_cons, List.forall_mem_singleton]
      exact ⟨.string _, .null⟩
  have hpadded : (∀ line ∈ lines, line.1.IsPadded) ∧ last.IsPadded := by
    decide
  have hspace : ∀ c ∈ [' '], isSpace c = true := List.forall_mem_singleton.mpr (by decide)
  have hnone : ∀ json, Json.ofText (String.ofList ['x']) ≠ .ok json := by
    intro json
    rw [ne_eq, Json.ofText_eq_ok_iff, String.toList_ofList]
    exact nofun
  have hformats := records_of_either_format.1 js hreads nofun
  refine ⟨hreads, hformats.1 [' '] hspace, hformats.2 lines last hpadded.1 hpadded.2 rfl, ?_⟩
  exact records_of_either_format.2 "null\nx" ['x'] (by decide) (by decide) (by decide) hnone

end FileText
end RecordFilter
