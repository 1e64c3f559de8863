import MessageKeys.Json.Parser
import MessageKeys.Json.Printer
import MessageKeys.Proofs.Source.Position
import MessageKeys.Proofs.Text.Splitting

/-!
Reading what was written.

What a value is written as, at any level, reads as that value (`parseKnown?_prettyAt`). The value may
stand in front of other text, if that does not go on with a number, since digits end only where none
follow (`EndsNumber`); blanks in front of a value, an item or a field do not matter. So the induction
over values (`Plain.readsBack`) needs one step for an item, one for a field and one for a character
of a string, and takes as much fuel as there is text.
-/
namespace MessageKeys.Json

section Strings

variable {loose : Bool}

theorem hexValue?_hexDigit : ∀ n < 16, Text.hexValue? (hexDigit n) = some n := by decide

/-- Units below the surrogates are characters of their own. -/
theorem readUnits?_control {c : Char} (control : c.toNat < 0x20) (rest : Text) :
    readUnits? loose ('0' :: '0' :: hexDigit (c.toNat / 16) :: hexDigit (c.toNat % 16) :: rest) =
      some (c, 4) := by
  have zero : Text.hexValue? '0' = some 0 := by decide
  have high := hexValue?_hexDigit (c.toNat / 16) (by omega)
  have low := hexValue?_hexDigit (c.toNat % 16) (by omega)
  have unit : c.toNat / 16 * 16 + c.toNat % 16 = c.toNat := by omega
  have noHigh : isHighSurrogate c.toNat = false := by simp [isHighSurrogate]; omega
  have noLow : isLowSurrogate c.toNat = false := by simp [isLowSurrogate]; omega
  simp [readUnits?, readUnit?, zero, high, low, unit, noHigh, noLow, Char.ofNat_toNat]

theorem readString?_letter {letter c : Char}
    (read : ∀ rest, readEscape? loose (letter :: rest) = some (c, 1)) (rest : Text) :
    readString? loose 0 ('\\' :: letter :: rest) =
      (readString? loose 0 rest).map fun (text, left) => (c :: text, left) := by
  simp [readString?, read]

/-- Reading undoes the escape of one character. -/
theorem readString?_escapeChar (c : Char) (rest : Text) :
    readString? loose 0 (escapeChar c ++ rest) =
      (readString? loose 0 rest).map fun (text, left) => (c :: text, left) := by
  unfold escapeChar
  split
  · next quote =>
    subst quote
    exact readString?_letter (fun _ => rfl) rest
  split
  · next backslash =>
    subst backslash
    exact readString?_letter (fun _ => rfl) rest
  split
  · next backspace =>
    obtain rfl : c = '\x08' := Char.toNat_inj.mp backspace
    exact readString?_letter (fun _ => rfl) rest
  split
  · next formFeed =>
    obtain rfl : c = '\x0c' := Char.toNat_inj.mp formFeed
    exact readString?_letter (fun _ => rfl) rest
  split
  · next lineFeed =>
    subst lineFeed
    exact readString?_letter (fun _ => rfl) rest
  split
  · next carriageReturn =>
    subst carriageReturn
    exact readString?_letter (fun _ => rfl) rest
  split
  · next tab =>
    subst tab
    exact readString?_letter (fun _ => rfl) rest
  split
  · next control => simp [readString?, readEscape?, readUnits?_control control]
  · next noQuote noBackslash _ _ _ _ _ noControl =>
    simp [readString?, noQuote, noBackslash, noControl]

theorem readString?_written (text rest : Text) :
    readString? loose 0 (text.flatMap escapeChar ++ '"' :: rest) = some (text, rest) := by
  induction text with
  | nil => simp [readString?]
  | cons c text ih =>
    rw [List.flatMap_cons, List.append_assoc, readString?_escapeChar, ih]
    rfl

end Strings

section Numbers

/-- Text that does not go on with a number. -/
def EndsNumber (rest : Text) : Prop :=
  ∀ c ∈ rest.head?, Text.isDigit c = false ∧ c ≠ '.' ∧ c ≠ 'e' ∧ c ≠ 'E'

theorem endsNumber_nil : EndsNumber [] := by simp [EndsNumber]

theorem endsNumber_comma (rest : Text) : EndsNumber (',' :: rest) := by
  simp [EndsNumber, Text.isDigit]

theorem endsNumber_newline (level : Nat) (rest : Text) : EndsNumber (newline level ++ rest) := by
  simp [EndsNumber, newline, Text.isDigit]

theorem exists_ofNat_eq_cons (n : Nat) :
    ∃ c more, Text.ofNat n = c :: more ∧ Text.isDigit c = true := by
  obtain ⟨c, more, written⟩ := List.exists_cons_of_ne_nil
    (show Text.ofNat n ≠ [] from Nat.toDigits_ne_nil)
  exact ⟨c, more, written, @Text.isDigit_of_mem_ofNat n c (by simp [written])⟩

theorem ne_of_isDigit {c mark : Char} (digit : Text.isDigit c = true)
    (other : Text.isDigit mark = false) : c ≠ mark := by
  rintro rfl
  rw [digit] at other
  cases other

/-- Only zero is written with a zero in front. -/
theorem eq_nil_of_ofNat_eq {n : Nat} {more : Text} (shape : Text.ofNat n = '0' :: more) :
    more = [] := by
  induction n using Nat.strongRecOn generalizing more with
  | ind n ih =>
    rw [Text.ofNat] at shape
    rcases Nat.lt_or_ge n 10 with small | large
    · rw [Nat.toDigits_of_lt_base small] at shape
      exact (List.cons.inj shape).2.symm
    · rw [Nat.toDigits_of_base_le (by decide) large] at shape
      cases front : Nat.toDigits 10 (n / 10) with
      | nil => exact absurd front Nat.toDigits_ne_nil
      | cons first others =>
        rw [front, List.cons_append] at shape
        have zero : Text.ofNat (n / 10) = '0' :: others := by
          rw [Text.ofNat, front, (List.cons.inj shape).1]
        have value := Text.digitsValue_ofNat (n / 10)
        rw [zero, ih (n / 10) (by omega) zero] at value
        have : n / 10 = 0 := value.symm
        omega

theorem takeWhile_isDigit {digits rest : Text} (all : ∀ c ∈ digits, Text.isDigit c = true)
    (ends : EndsNumber rest) :
    (digits ++ rest).takeWhile Text.isDigit = digits ∧
      (digits ++ rest).dropWhile Text.isDigit = rest := by
  rw [List.takeWhile_append_of_pos all, List.dropWhile_append_of_pos all]
  cases rest with
  | nil => simp
  | cons c rest =>
    have other := (ends c rfl).1
    simp [other]

theorem readWhole?_ofNat (n : Nat) {rest : Text} (ends : EndsNumber rest) :
    readWhole? (Text.ofNat n ++ rest) = some (Text.ofNat n, rest) := by
  have digits : ∀ c ∈ Text.ofNat n, Text.isDigit c = true :=
    fun _ member => Text.isDigit_of_mem_ofNat member
  have some : Text.ofNat n ≠ [] := Nat.toDigits_ne_nil
  obtain ⟨taken, left⟩ := takeWhile_isDigit digits ends
  unfold readWhole?
  split
  · next more shape =>
    obtain ⟨c, others, written⟩ := List.exists_cons_of_ne_nil some
    rw [written, List.cons_append] at shape
    obtain ⟨rfl, rfl⟩ := List.cons.inj shape
    obtain rfl := eq_nil_of_ofNat_eq written
    rw [written]
    rfl
  · rw [readDigits?, taken, left, if_neg some]

/-- Digits with nothing of a number behind them are read as a number. -/
theorem readNumber?_ofNat (n : Nat) {rest : Text} (ends : EndsNumber rest) :
    readNumber? (Text.ofNat n ++ rest) = some (ofNat n, rest) := by
  have noSign : ((Text.ofNat n ++ rest).take 1).filter (· == '-') = [] := by
    obtain ⟨c, others, written, digit⟩ := exists_ofNat_eq_cons n
    simp [written, ne_of_isDigit digit (show Text.isDigit '-' = false by decide)]
  have noFraction : readFraction? rest = some ([], rest) := by
    unfold readFraction?
    split
    · exact absurd rfl (ends '.' rfl).2.1
    · rfl
  have noExponent : readExponent? rest = some ([], rest) := by
    unfold readExponent?
    split
    · next mark rest =>
      rw [if_neg (not_or.mpr (ends mark rfl).2.2)]
    · rfl
  simp [readNumber?, noSign, readWhole?_ofNat n ends, noFraction, noExponent, ofNat]

end Numbers

section Blanks

variable {loose : Bool} {known : Text → Bool} {blanks : Text}

theorem isSpace_of_mem_newline (level : Nat) : ∀ c ∈ newline level, isSpace c = true := by
  simp [newline, isSpace]

theorem skipSpace_append (blank : ∀ c ∈ blanks, isSpace c = true) (text : Text) :
    skipSpace (blanks ++ text) = skipSpace text :=
  List.dropWhile_append_of_pos blank

theorem skipSpace_cons {c : Char} (black : isSpace c = false) (text : Text) :
    skipSpace (c :: text) = c :: text :=
  List.dropWhile_cons_of_neg (by simp [black])

theorem readValue?_append (blank : ∀ c ∈ blanks, isSpace c = true) (fuel : Nat) (text : Text) :
    readValue? loose known fuel (blanks ++ text) = readValue? loose known fuel text := by
  cases fuel with
  | zero => rfl
  | succ fuel => rw [readValue?, readValue?, skipSpace_append blank]

theorem readItems?_append (blank : ∀ c ∈ blanks, isSpace c = true) (fuel : Nat) (text : Text) :
    readItems? loose fuel (blanks ++ text) = readItems? loose fuel text := by
  cases fuel with
  | zero => rfl
  | succ fuel => rw [readItems?, readItems?, readValue?_append blank]

theorem readFields?_append (blank : ∀ c ∈ blanks, isSpace c = true) (fuel : Nat) (text : Text) :
    readFields? loose known fuel (blanks ++ text) = readFields? loose known fuel text := by
  cases fuel with
  | zero => rfl
  | succ fuel => rw [readFields?, readFields?, skipSpace_append blank]

end Blanks

/-- A value whose numbers are natural ones. -/
inductive Plain : Json → Prop
  | null : Plain null
  | bool (value : Bool) : Plain (bool value)
  | number (n : Nat) : Plain (ofNat n)
  | string (text : Text) : Plain (string text)
  | array (items : List Json) (each : ∀ item ∈ items, Plain item) : Plain (array items)
  | object (fields : List (Text × Json)) (each : ∀ field ∈ fields, Plain field.2) :
    Plain (object fields)

section Layout

theorem prettyAt_array (level : Nat) (items : List Json) :
    prettyAt level (array items) =
      block '[' ']' level (items.map (prettyAt (level + 1))) := by
  simp [prettyAt]

/-- A field as it stands at a level. -/
def writtenField (level : Nat) (field : Text × Json) : Text :=
  quote field.1 ++ [':', ' '] ++ prettyAt level field.2

theorem prettyAt_object (level : Nat) (fields : List (Text × Json)) :
    prettyAt level (object fields) =
      block '{' '}' level (fields.map (writtenField (level + 1))) := by
  rw [prettyAt]
  congr 1
  exact @List.attach_map_val _ _ fields (writtenField (level + 1))

theorem block_of_ne_nil {opening closing : Char} {level : Nat} {items : List Text}
    (filled : items ≠ []) (rest : Text) :
    block opening closing level items ++ rest =
      opening :: (newline (level + 1) ++ (Text.join (',' :: newline (level + 1)) items ++
        (newline level ++ closing :: rest))) := by
  simp [block, filled]

end Layout

/-- Written at any level, the value is read again, whatever stands behind it. As much fuel as the
text is long is enough. -/
def ReadsBack (json : Json) : Prop :=
  ∀ (level : Nat) (loose : Bool) (known : Text → Bool) (fuel : Nat) (rest : Text),
    (prettyAt level json).length ≤ fuel → EndsNumber rest →
      readValue? loose known fuel (prettyAt level json ++ rest) = some (json, rest)

section Values

variable {loose : Bool} {known : Text → Bool} {level fuel : Nat} {text rest left : Text}

theorem readItems?_last {item : Json}
    (read : readValue? loose (fun _ => true) fuel text = some (item, rest))
    (closes : skipSpace rest = ']' :: left) :
    readItems? loose (fuel + 1) text = some ([item], left) := by
  simp [readItems?, read, closes]

theorem readItems?_more {item : Json}
    (read : readValue? loose (fun _ => true) fuel text = some (item, rest))
    (continues : skipSpace rest = ',' :: left) :
    readItems? loose (fuel + 1) text =
      (readItems? loose fuel left).map fun (items, left) => (item :: items, left) := by
  simp [readItems?, read, continues]

theorem readItems?_written {items : List Json} (inner : Nat) (filled : items ≠ [])
    (each : ∀ item ∈ items, ReadsBack item)
    (fits : (Text.join (',' :: newline inner) (items.map (prettyAt inner))).length < fuel) :
    readItems? loose fuel (Text.join (',' :: newline inner) (items.map (prettyAt inner)) ++
      (newline level ++ ']' :: rest)) = some (items, rest) := by
  induction items generalizing fuel with
  | nil => exact absurd rfl filled
  | cons item more ih =>
    obtain ⟨fuel, rfl⟩ := Nat.exists_eq_add_one_of_ne_zero (Nat.ne_zero_of_lt fits)
    rw [List.forall_mem_cons] at each
    cases more with
    | nil =>
      have fits : (prettyAt inner item).length < fuel + 1 := fits
      refine readItems?_last (each.1 inner loose _ fuel _ (by omega) (endsNumber_newline level _)) ?_
      rw [skipSpace_append (isSpace_of_mem_newline level), skipSpace_cons (by decide)]
    | cons second others =>
      simp only [List.map_cons, Text.join, List.length_append, List.length_cons,
        List.append_assoc, List.cons_append] at fits ih ⊢
      rw [readItems?_more (each.1 inner loose _ fuel _ (by omega) (endsNumber_comma _))
        (skipSpace_cons (by decide) _), readItems?_append (isSpace_of_mem_newline inner),
        ih (by simp) each.2 (by omega)]
      rfl

/-- The value of a field stands behind a blank. -/
theorem readValue?_blank {json : Json} (reads : ReadsBack json) (inner : Nat)
    (fits : (prettyAt inner json).length ≤ fuel) (ends : EndsNumber rest) :
    readValue? loose known fuel (' ' :: (prettyAt inner json ++ rest)) = some (json, rest) := by
  have blank : ∀ c ∈ [' '], isSpace c = true := by simp [isSpace]
  exact (readValue?_append blank fuel _).trans (reads inner _ _ fuel rest fits ends)

section Field

variable {field : Text × Json}

theorem readFields?_last (reads : ReadsBack field.2) (inner : Nat)
    (fits : (prettyAt inner field.2).length ≤ fuel) (ends : EndsNumber rest)
    (closes : skipSpace rest = '}' :: left) :
    readFields? loose known (fuel + 1) (writtenField inner field ++ rest) =
      some ([field], left) := by
  have black : isSpace '"' = false ∧ isSpace ':' = false := by decide
  simp [writtenField, quote, readFields?, skipSpace_cons, black, readString?_written,
    readValue?_blank reads inner fits ends, closes]

theorem readFields?_more (reads : ReadsBack field.2) (inner : Nat)
    (fits : (prettyAt inner field.2).length ≤ fuel) (ends : EndsNumber rest)
    (continues : skipSpace rest = ',' :: left) :
    readFields? loose known (fuel + 1) (writtenField inner field ++ rest) =
      (readFields? loose known fuel left).map fun (fields, left) => (field :: fields, left) := by
  have black : isSpace '"' = false ∧ isSpace ':' = false := by decide
  simp [writtenField, quote, readFields?, skipSpace_cons, black, readString?_written,
    readValue?_blank reads inner fits ends, continues]

end Field

theorem readFields?_written {fields : List (Text × Json)} (inner : Nat) (filled : fields ≠ [])
    (each : ∀ field ∈ fields, ReadsBack field.2)
    (fits : (Text.join (',' :: newline inner) (fields.map (writtenField inner))).length < fuel) :
    readFields? loose known fuel
      (Text.join (',' :: newline inner) (fields.map (writtenField inner)) ++
        (newline level ++ '}' :: rest)) = some (fields, rest) := by
  induction fields generalizing fuel with
  | nil => exact absurd rfl filled
  | cons field more ih =>
    obtain ⟨fuel, rfl⟩ := Nat.exists_eq_add_one_of_ne_zero (Nat.ne_zero_of_lt fits)
    rw [List.forall_mem_cons] at each
    have shorter : (prettyAt inner field.2).length ≤ (writtenField inner field).length := by
      simp only [writtenField, List.length_append]
      omega
    cases more with
    | nil =>
      have fits : (writtenField inner field).length < fuel + 1 := fits
      refine readFields?_last each.1 inner (by omega) (endsNumber_newline level _) ?_
      rw [skipSpace_append (isSpace_of_mem_newline level), skipSpace_cons (by decide)]
    | cons second others =>
      simp only [List.map_cons, Text.join, List.length_append, List.length_cons,
        List.append_assoc, List.cons_append] at fits ih ⊢
      rw [readFields?_more each.1 inner (by omega) (endsNumber_comma _)
        (skipSpace_cons (by decide) _), readFields?_append (isSpace_of_mem_newline inner),
        ih (by simp) each.2 (by omega)]
      rfl

theorem isSpace_of_isDigit {c : Char} (digit : Text.isDigit c = true) : isSpace c = false := by
  have other (mark : Char) (noDigit : Text.isDigit mark = false) := ne_of_isDigit digit noDigit
  simp [isSpace, other ' ' (by decide), other '\n' (by decide), other '\r' (by decide),
    other '\t' (by decide)]

/-- No value begins like a blank or the end of an array. -/
theorem Plain.starts {json : Json} (plain : Plain json) (level : Nat) :
    ∃ c more, prettyAt level json = c :: more ∧ isSpace c = false ∧ c ≠ ']' := by
  cases plain with
  | null => exact ⟨'n', _, by rw [prettyAt]; rfl, by decide, by decide⟩
  | bool value =>
    cases value with
    | true => exact ⟨'t', _, by rw [prettyAt]; rfl, by decide, by decide⟩
    | false => exact ⟨'f', _, by rw [prettyAt]; rfl, by decide, by decide⟩
  | number n =>
    obtain ⟨c, more, written, digit⟩ := exists_ofNat_eq_cons n
    exact ⟨c, more, by rw [ofNat, prettyAt, written], isSpace_of_isDigit digit,
      ne_of_isDigit digit (by decide)⟩
  | string text => exact ⟨'"', _, by rw [prettyAt]; rfl, by decide, by decide⟩
  | array items =>
    rw [prettyAt_array, block]
    split
    · exact ⟨'[', _, rfl, by decide, by decide⟩
    · exact ⟨'[', _, rfl, by decide, by decide⟩
  | object fields =>
    rw [prettyAt_object, block]
    split
    · exact ⟨'{', _, rfl, by decide, by decide⟩
    · exact ⟨'{', _, rfl, by decide, by decide⟩

theorem readValue?_items {text : Text} (filled : (skipSpace text).head? ≠ some ']') :
    readValue? loose known (fuel + 1) ('[' :: text) =
      (readItems? loose fuel text).map fun (items, left) => (array items, left) := by
  rw [readValue?, skipSpace_cons (by decide)]
  simp only
  split
  · next shape => exact absurd (congrArg List.head? shape) filled
  · rfl

theorem readValue?_fields {text : Text} (filled : (skipSpace text).head? ≠ some '}') :
    readValue? loose known (fuel + 1) ('{' :: text) =
      (readFields? loose known fuel text).map fun (fields, left) => (object fields, left) := by
  rw [readValue?, skipSpace_cons (by decide)]
  simp only
  split
  · next shape => exact absurd (congrArg List.head? shape) filled
  · rfl

theorem readValue?_array {items : List Json} (plain : ∀ item ∈ items, Plain item)
    (each : ∀ item ∈ items, ReadsBack item)
    (fits : (prettyAt level (array items)).length ≤ fuel + 1) :
    readValue? loose known (fuel + 1) (prettyAt level (array items) ++ rest) =
      some (array items, rest) := by
  rw [prettyAt_array] at fits ⊢
  cases items with
  | nil => simp [block, readValue?, skipSpace, isSpace]
  | cons item more =>
    obtain ⟨c, others, written, black, other⟩ := (plain item (by simp)).starts (level + 1)
    have filled : (item :: more).map (prettyAt (level + 1)) ≠ [] := by simp
    rw [← List.append_nil (block ..), block_of_ne_nil filled] at fits
    simp only [List.length_cons, List.length_append] at fits
    rw [block_of_ne_nil filled, readValue?_items,
      readItems?_append (isSpace_of_mem_newline _),
      readItems?_written _ (by simp) each (by omega)]
    · rfl
    · rw [skipSpace_append (isSpace_of_mem_newline _), List.map_cons, Text.join_cons_flatMap,
        written, List.cons_append, List.cons_append, skipSpace_cons black]
      simpa using other

theorem readValue?_object {fields : List (Text × Json)}
    (each : ∀ field ∈ fields, ReadsBack field.2)
    (fits : (prettyAt level (object fields)).length ≤ fuel + 1) :
    readValue? loose known (fuel + 1) (prettyAt level (object fields) ++ rest) =
      some (object fields, rest) := by
  rw [prettyAt_object] at fits ⊢
  cases fields with
  | nil => simp [block, readValue?, skipSpace, isSpace]
  | cons field more =>
    have filled : (field :: more).map (writtenField (level + 1)) ≠ [] := by simp
    rw [← List.append_nil (block ..), block_of_ne_nil filled] at fits
    simp only [List.length_cons, List.length_append] at fits
    rw [block_of_ne_nil filled, readValue?_fields,
      readFields?_append (isSpace_of_mem_newline _),
      readFields?_written _ (by simp) each (by omega)]
    · rfl
    · rw [skipSpace_append (isSpace_of_mem_newline _), List.map_cons, Text.join_cons_flatMap,
        writtenField, quote]
      simp [skipSpace, isSpace]

theorem readValue?_ofNat (n : Nat) (ends : EndsNumber rest) :
    readValue? loose known (fuel + 1) (Text.ofNat n ++ rest) = some (ofNat n, rest) := by
  have number := readNumber?_ofNat n ends
  obtain ⟨c, others, written, digit⟩ := exists_ofNat_eq_cons n
  have other (mark : Char) (noDigit : Text.isDigit mark = false) : mark ≠ c :=
    (ne_of_isDigit digit noDigit).symm
  rw [written, List.cons_append] at number ⊢
  rw [readValue?, skipSpace_cons (isSpace_of_isDigit digit)]
  split
  · next shape => exact absurd (List.cons.inj shape).1.symm (other '"' (by decide))
  · next shape => exact absurd (List.cons.inj shape).1.symm (other '[' (by decide))
  · next shape => exact absurd (List.cons.inj shape).1.symm (other '{' (by decide))
  · simp [Text.after?, other 'n' (by decide), other 't' (by decide), other 'f' (by decide), number]

/-- A value takes at least one character. -/
theorem readsBack_of_succ {json : Json} (plain : Plain json)
    (reads : ∀ (level : Nat) (loose : Bool) (known : Text → Bool) (fuel : Nat) (rest : Text),
      (prettyAt level json).length ≤ fuel + 1 → EndsNumber rest →
        readValue? loose known (fuel + 1) (prettyAt level json ++ rest) = some (json, rest)) :
    ReadsBack json := by
  intro level loose known fuel rest fits ends
  obtain ⟨c, more, written, -, -⟩ := plain.starts level
  obtain ⟨fuel, rfl⟩ : ∃ left, fuel = left + 1 := by
    refine Nat.exists_eq_add_one_of_ne_zero ?_
    rw [written, List.length_cons] at fits
    omega
  exact reads level loose known fuel rest fits ends

end Values

/-- Values whose numbers are natural ones are read again as they were written. -/
theorem Plain.readsBack {json : Json} (plain : Plain json) : ReadsBack json := by
  induction plain with
  | null =>
    refine readsBack_of_succ .null fun level loose known fuel rest _ _ => ?_
    simp [prettyAt, readValue?, skipSpace, isSpace, Text.after?]
  | bool value =>
    refine readsBack_of_succ (.bool value) fun level loose known fuel rest _ _ => ?_
    cases value <;> simp [prettyAt, readValue?, skipSpace, isSpace, Text.after?]
  | number n =>
    refine readsBack_of_succ (.number n) fun level loose known fuel rest _ ends => ?_
    rw [ofNat, prettyAt]
    exact readValue?_ofNat n ends
  | string text =>
    refine readsBack_of_succ (.string text) fun level loose known fuel rest _ _ => ?_
    simp [prettyAt, quote, readValue?, skipSpace, isSpace, readString?_written]
  | array items each ih =>
    exact readsBack_of_succ (.array items each) fun level loose known fuel rest fits _ =>
      readValue?_array each ih fits
  | object fields each ih =>
    exact readsBack_of_succ (.object fields each) fun level loose known fuel rest fits _ =>
      readValue?_object ih fits

/-- Only blanks may stand behind a value. -/
theorem parseKnown?_prettyAt {json : Json} (plain : Plain json) (known : Text → Bool)
    (level : Nat) : parseKnown? known (prettyAt level json) = some json := by
  have read := plain.readsBack level false known _ [] (Nat.le_succ _) endsNumber_nil
  rw [List.append_nil] at read
  simp [parseKnown?, read, skipSpace]

end MessageKeys.Json
