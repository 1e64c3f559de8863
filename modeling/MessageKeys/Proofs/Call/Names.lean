import MessageKeys.Call.Name
import MessageKeys.Proofs.Text.Splitting

/-!
Names that are read out of a longer text.

A name goes on as long as its characters do, so it is read whole if what follows begins otherwise
(`readName?_append`). The same holds for names with dots between them: what `readName?` and
`dropDotted` pass together is such a name (`exists_typeName_of_read`), and they pass all of it
(`read_of_typeName`). Bare identifiers are names.
-/
namespace MessageKeys.Call

open Text

/-- A name as it stands in a longer text. -/
def IsName (text : Text) : Prop :=
  ∃ first rest, text = first :: rest ∧ isNameStart first = true ∧ ∀ c ∈ rest, isNamePart c = true

/-- Names with dots between them. -/
def IsTypeName (text : Text) : Prop :=
  ∃ names, names ≠ [] ∧ (∀ name ∈ names, IsName name) ∧ text = Text.join ['.'] names

/-! ## Characters of names -/

theorem isWord_of_isAsciiWord {c : Char} (word : isAsciiWord c = true) : isWord c = true := by
  have small : c.toNat < 128 := by
    simp only [isAsciiWord, isAsciiLetter, Bool.or_eq_true, Bool.and_eq_true, decide_eq_true_eq,
      beq_iff_eq, Char.le_def, UInt32.le_iff_toNat_le] at word
    have code : c.toNat = c.val.toNat := rfl
    rcases word with ((lower | upper) | digit) | rfl
    · have bound : c.val.toNat ≤ 122 := lower.2
      omega
    · have bound : c.val.toNat ≤ 90 := upper.2
      omega
    · have bound : c.val.toNat ≤ 57 := digit.2
      omega
    · decide
  rw [isWord, if_pos small, word]

theorem isNamePart_of_isIdentifierPart {c : Char} (part : isIdentifierPart c = true) :
    isNamePart c = true := by
  by_cases dollar : c = '$'
  · rw [dollar]
    decide
  · have word : isAsciiWord c = true := by
      simpa [isIdentifierPart, isNameStart, isDigit, isAsciiWord, dollar, or_right_comm] using part
    rw [isNamePart, isWord_of_isAsciiWord word]
    rfl

theorem isNamePart_of_isNameStart {c : Char} (starts : isNameStart c = true) :
    isNamePart c = true := by
  apply isNamePart_of_isIdentifierPart
  rw [isIdentifierPart, starts]
  rfl

theorem identifierParts_of_isIdentifier {name : Text} (named : isIdentifier name = true) :
    ∀ c ∈ name, isIdentifierPart c = true := by
  cases name with
  | nil => cases named
  | cons first rest =>
    rw [isIdentifier, Bool.and_eq_true, List.all_eq_true] at named
    refine List.forall_mem_cons.mpr ⟨?_, named.2⟩
    rw [isIdentifierPart, named.1]
    rfl

/-- A bare identifier is a name. -/
theorem isName_of_isIdentifier {text : Text} (identifier : isIdentifier text = true) :
    IsName text := by
  cases text with
  | nil => cases identifier
  | cons first rest =>
    rw [isIdentifier, Bool.and_eq_true, List.all_eq_true] at identifier
    exact ⟨first, rest, rfl, identifier.1, fun c member =>
      isNamePart_of_isIdentifierPart (identifier.2 c member)⟩

/-- The code points of blanks. -/
def blankCodes : List Nat :=
  [0x09, 0x0A, 0x0B, 0x0C, 0x0D, 0x20, 0x85, 0xA0, 0x1680, 0x2000, 0x2001, 0x2002, 0x2003, 0x2004,
   0x2005, 0x2006, 0x2007, 0x2008, 0x2009, 0x200A, 0x2028, 0x2029, 0x202F, 0x205F, 0x3000]

/-- No blank is part of a name. -/
theorem not_isNamePart_of_isBlank {c : Char} (blank : isBlank c = true) : isNamePart c = false := by
  have code : c.toNat ∈ blankCodes := by
    simp only [isBlank, Bool.or_eq_true, Bool.and_eq_true, decide_eq_true_eq, List.mem_cons,
      List.not_mem_nil, or_false] at blank
    simp only [blankCodes, List.mem_cons, List.not_mem_nil, or_false]
    omega
  have none : ∀ n ∈ blankCodes, isNamePart (Char.ofNat n) = false := by
    decide +kernel
  rw [← Char.ofNat_toNat c]
  exact none _ code

/-! ## Reading names -/

/-- What stands behind a name: nothing, or a character that neither is part of one nor a dot. -/
def EndsName (text : Text) : Prop :=
  ∀ c rest, text = c :: rest → isNamePart c = false ∧ c ≠ '.'

theorem readName?_append {name tail : Text} (isName : IsName name)
    (ends : EndsName tail) : readName? (name ++ tail) = some (name, tail) := by
  obtain ⟨first, rest, rfl, starts, parts⟩ := isName
  have stop : tail.takeWhile isNamePart = [] ∧ tail.dropWhile isNamePart = tail := by
    cases tail with
    | nil => exact ⟨rfl, rfl⟩
    | cons c behind =>
      have other := (ends c behind rfl).1
      simp [other]
  rw [List.cons_append, readName?, if_pos starts, List.takeWhile_append_of_pos parts,
    List.dropWhile_append_of_pos parts, stop.1, stop.2, List.append_nil]

theorem dropDotted_parts {parts : Text} (all : ∀ c ∈ parts, isNamePart c = true) (rest : Text) :
    dropDotted (parts ++ rest) = dropDotted rest := by
  induction parts with
  | nil => rfl
  | cons c more ih =>
    obtain ⟨part, others⟩ := List.forall_mem_cons.mp all
    rw [List.cons_append, dropDotted, part, Bool.true_or, if_pos rfl, ih others]

theorem dropDotted_dropWhile (text : Text) :
    dropDotted (text.dropWhile isNamePart) = dropDotted text := by
  have all : ∀ c ∈ text.takeWhile isNamePart, isNamePart c = true :=
    List.all_eq_true.mp List.all_takeWhile
  rw [← dropDotted_parts all, List.takeWhile_append_dropWhile]

theorem dropDotted_of_endsName {text : Text} (ends : EndsName text) : dropDotted text = text := by
  cases text with
  | nil => rfl
  | cons c rest =>
    obtain ⟨other, noDot⟩ := ends c rest rfl
    simp [dropDotted, other, noDot]

theorem dropDotted_name {name : Text} (isName : IsName name) (rest : Text) :
    dropDotted ('.' :: (name ++ rest)) = dropDotted rest := by
  obtain ⟨first, more, rfl, starts, parts⟩ := isName
  have all : ∀ c ∈ first :: more, isNamePart c = true :=
    List.forall_mem_cons.mpr ⟨isNamePart_of_isNameStart starts, parts⟩
  rw [dropDotted, List.cons_append, List.head?_cons, Option.any_some, starts, ← List.cons_append,
    dropDotted_parts all]
  simp

theorem dropDotted_names {names : List Text} (each : ∀ name ∈ names, IsName name) (rest : Text) :
    dropDotted (names.flatMap ('.' :: ·) ++ rest) = dropDotted rest := by
  induction names with
  | nil => rfl
  | cons name more ih =>
    obtain ⟨isName, others⟩ := List.forall_mem_cons.mp each
    rw [List.flatMap_cons, List.append_assoc, List.cons_append, dropDotted_name isName, ih others]

/-- What `dropDotted` passes are parts of a name, and then names with a dot in front of each. -/
theorem exists_names_of_dropDotted (text : Text) :
    ∃ (parts : Text) (names : List Text), (∀ c ∈ parts, isNamePart c = true) ∧
      (∀ name ∈ names, IsName name) ∧
      text = parts ++ (names.flatMap ('.' :: ·) ++ dropDotted text) := by
  induction text with
  | nil => exact ⟨[], [], by simp, by simp, rfl⟩
  | cons c rest ih =>
    obtain ⟨parts, names, all, each, shape⟩ := ih
    by_cases part : isNamePart c = true
    · refine ⟨c :: parts, names, List.forall_mem_cons.mpr ⟨part, all⟩, each, ?_⟩
      rw [dropDotted, part, Bool.true_or, if_pos rfl, List.cons_append, ← shape]
    · by_cases dot : c = '.' ∧ rest.head?.any isNameStart = true
      · obtain ⟨rfl, starts⟩ := dot
        have passed : dropDotted ('.' :: rest) = dropDotted rest := by simp [dropDotted, starts]
        obtain ⟨first, more, rfl⟩ : ∃ first more, rest = first :: more := by
          apply List.exists_cons_of_ne_nil
          rintro rfl
          cases starts
        rw [List.head?_cons, Option.any_some] at starts
        have shorter : dropDotted (first :: more) ≠ first :: more := by
          intro same
          have bound := length_dropDotted_le more
          rw [dropDotted, isNamePart_of_isNameStart starts, Bool.true_or, if_pos rfl] at same
          rw [same, List.length_cons] at bound
          omega
        -- The name behind the dot is what the parts make up.
        have isName : IsName parts := by
          rcases List.cons_eq_append_iff.mp shape with ⟨rfl, rest⟩ | ⟨others, rfl, _⟩
          · cases names with
            | nil => exact absurd rest shorter
            | cons name further =>
              rw [← (List.cons.inj rest).1] at starts
              cases starts
          · exact ⟨first, others, rfl, starts, (List.forall_mem_cons.mp all).2⟩
        refine ⟨[], parts :: names, by simp, List.forall_mem_cons.mpr ⟨isName, each⟩, ?_⟩
        rw [passed, List.nil_append, List.flatMap_cons, List.cons_append, List.cons_append,
          List.append_assoc, ← shape]
      · refine ⟨[], [], by simp, by simp, ?_⟩
        have stays : dropDotted (c :: rest) = c :: rest := by
          rw [dropDotted, if_neg]
          simpa [part] using dot
        rw [stays]
        rfl

theorem join_dots (name : Text) (more : List Text) :
    Text.join ['.'] (name :: more) = name ++ more.flatMap ('.' :: ·) :=
  join_cons_flatMap ['.'] name more

/-- What is passed of a text that begins with a name is one, with dots in it perhaps. -/
theorem exists_typeName_of_read {text name rest : Text}
    (read : readName? text = some (name, rest)) :
    ∃ type, IsTypeName type ∧ text = type ++ dropDotted rest := by
  cases text with
  | nil => cases read
  | cons first more =>
    rw [readName?] at read
    split at read
    · next starts =>
      cases read
      obtain ⟨parts, names, all, each, shape⟩ := exists_names_of_dropDotted more
      refine ⟨Text.join ['.'] ((first :: parts) :: names), ⟨_, by simp, ?_, rfl⟩, ?_⟩
      · exact List.forall_mem_cons.mpr ⟨⟨first, parts, rfl, starts, all⟩, each⟩
      · rw [dropDotted_dropWhile, join_dots, List.cons_append, List.cons_append, List.append_assoc]
        exact congrArg (first :: ·) shape
    · cases read

/-- A name with dots in it is passed whole. -/
theorem read_of_typeName {type tail : Text} (isType : IsTypeName type) (ends : EndsName tail) :
    ∃ name rest, readName? (type ++ tail) = some (name, rest) ∧ dropDotted rest = tail := by
  obtain ⟨names, filled, each, rfl⟩ := isType
  obtain ⟨name, more, rfl⟩ := List.exists_cons_of_ne_nil filled
  obtain ⟨isName, others⟩ := List.forall_mem_cons.mp each
  obtain ⟨first, parts, rfl, starts, all⟩ := isName
  rw [join_dots, List.append_assoc, List.cons_append, readName?, if_pos starts]
  refine ⟨_, _, rfl, ?_⟩
  rw [dropDotted_dropWhile, dropDotted_parts all, dropDotted_names others,
    dropDotted_of_endsName ends]

end MessageKeys.Call
