import MessageKeys.Call.Expression
import MessageKeys.Proofs.Call.Names
import MessageKeys.Proofs.Text.Trimming

/-!
The openings of array initializers.

`new T[] {` is written with a name for `T`, which may have dots in it, with a blank at least behind
`new`, and with blanks as one likes in front of the two brackets and of the brace
(`IsArrayOpening`). The reader takes exactly such openings (`afterArrayOpening?_eq_some_iff`), and
the search finds the first of them.
-/
namespace MessageKeys.Call

open Text

/-- `new T[] {`, with blanks where they may stand. -/
def IsArrayOpening (text : Text) : Prop :=
  ∃ gap type before between behind : Text,
    text = ['n', 'e', 'w'] ++ (gap ++ (type ++ (before ++ '[' :: (between ++ ']' ::
      (behind ++ ['{']))))) ∧
    gap ≠ [] ∧ IsTypeName type ∧ ∀ c ∈ gap ++ before ++ between ++ behind, isBlank c = true

theorem IsArrayOpening.brace_mem {opening : Text} (isOpening : IsArrayOpening opening) :
    '{' ∈ opening := by
  obtain ⟨_, _, _, _, _, rfl, _⟩ := isOpening
  simp

/-- A mark is read behind any blanks. -/
theorem afterMark?_eq_some_iff {mark : Char} (inked : isBlank mark = false) {text rest : Text} :
    afterMark? mark text = some rest ↔
      ∃ blanks, text = blanks ++ mark :: rest ∧ ∀ c ∈ blanks, isBlank c = true := by
  rw [afterMark?, after?_eq_some_iff]
  constructor
  · intro read
    refine ⟨blankLead text, ?_, fun c => isBlank_of_mem_blankLead⟩
    rw [← List.singleton_append, ← read, blankLead_append_trimStart]
  · rintro ⟨blanks, rfl, blank⟩
    rw [trimStart_blanks_append blank, trimStart_cons_of_not_blank inked]
    rfl

/-- A name does not begin with a blank. -/
theorem IsName.trimStart_append {name : Text} (isName : IsName name) (tail : Text) :
    trimStart (name ++ tail) = name ++ tail := by
  obtain ⟨first, rest, rfl, starts, _⟩ := isName
  apply trimStart_cons_of_not_blank
  cases blank : isBlank first with
  | false => rfl
  | true =>
    have part := isNamePart_of_isNameStart starts
    rw [not_isNamePart_of_isBlank blank] at part
    cases part

theorem IsTypeName.trimStart_append {type : Text} (isType : IsTypeName type) (tail : Text) :
    trimStart (type ++ tail) = type ++ tail := by
  obtain ⟨names, filled, each, rfl⟩ := isType
  obtain ⟨name, more, rfl⟩ := List.exists_cons_of_ne_nil filled
  rw [join_dots, List.append_assoc, (each name List.mem_cons_self).trimStart_append]

/-- A bracket ends a name, and so does a blank. -/
theorem endsName_blanks_append {blanks : Text} (blank : ∀ c ∈ blanks, isBlank c = true)
    (rest : Text) : EndsName (blanks ++ '[' :: rest) := by
  intro c behind shape
  cases blanks with
  | nil =>
    rw [← (List.cons.inj shape).1]
    decide
  | cons first others =>
    have here := blank first List.mem_cons_self
    rw [← (List.cons.inj shape).1]
    refine ⟨not_isNamePart_of_isBlank here, ?_⟩
    rintro rfl
    cases here

/-- The reader takes the openings of array initializers and nothing else. -/
theorem afterArrayOpening?_eq_some_iff {text rest : Text} :
    afterArrayOpening? text = some rest ↔
      ∃ opening, IsArrayOpening opening ∧ text = opening ++ rest := by
  constructor
  · intro read
    simp only [afterArrayOpening?, Option.bind_eq_bind, Option.bind_eq_some_iff] at read
    obtain ⟨afterNew, new, read⟩ := read
    rw [after?_eq_some_iff] at new
    split at read
    · next blank =>
      simp only [Option.bind_eq_some_iff] at read
      obtain ⟨⟨name, afterName⟩, named, afterBracket, opened, afterClose, closed, braced⟩ := read
      obtain ⟨type, isType, shape⟩ := exists_typeName_of_read named
      obtain ⟨before, first, blankBefore⟩ := (afterMark?_eq_some_iff (by decide)).mp opened
      obtain ⟨between, second, blankBetween⟩ := (afterMark?_eq_some_iff (by decide)).mp closed
      obtain ⟨behind, third, blankBehind⟩ := (afterMark?_eq_some_iff (by decide)).mp braced
      refine ⟨_, ⟨blankLead afterNew, type, before, between, behind, rfl, ?_, isType, ?_⟩, ?_⟩
      · cases afterNew with
        | nil => cases blank
        | cons c others =>
          rw [List.head?_cons, Option.any_some] at blank
          simp [blankLead, blank]
      · simp only [List.forall_mem_append]
        exact ⟨⟨⟨fun c => isBlank_of_mem_blankLead, blankBefore⟩, blankBetween⟩, blankBehind⟩
      · have parts := blankLead_append_trimStart afterNew
        rw [shape, first, second, third] at parts
        refine (new.trans (congrArg _ parts.symm)).trans ?_
        simp
    · cases read
  · rintro ⟨opening, ⟨gap, type, before, between, behind, rfl, filled, isType, blank⟩, rfl⟩
    simp only [List.forall_mem_append] at blank
    obtain ⟨⟨⟨blankGap, blankBefore⟩, blankBetween⟩, blankBehind⟩ := blank
    have braced : afterMark? '{' (behind ++ '{' :: rest) = some rest :=
      (afterMark?_eq_some_iff (by decide)).mpr ⟨behind, rfl, blankBehind⟩
    have closed : ∀ inner, afterMark? ']' (between ++ ']' :: inner) = some inner :=
      fun inner => (afterMark?_eq_some_iff (by decide)).mpr ⟨between, rfl, blankBetween⟩
    have opened : ∀ inner, afterMark? '[' (before ++ '[' :: inner) = some inner :=
      fun inner => (afterMark?_eq_some_iff (by decide)).mpr ⟨before, rfl, blankBefore⟩
    obtain ⟨name, afterName, named, dotted⟩ := read_of_typeName isType
      (endsName_blanks_append blankBefore (between ++ ']' :: (behind ++ '{' :: rest)))
    have blank : ∀ inner : Text, (gap ++ inner).head?.any isBlank = true := by
      intro inner
      obtain ⟨c, others, rfl⟩ := List.exists_cons_of_ne_nil filled
      exact blankGap c List.mem_cons_self
    have new : ∀ inner, after? ['n', 'e', 'w'] (['n', 'e', 'w'] ++ inner) = some inner :=
      fun inner => after?_eq_some_iff.mpr rfl
    simp only [List.append_assoc, List.cons_append, List.nil_append] at new ⊢
    rw [afterArrayOpening?, new]
    simp only [Option.bind_eq_bind, Option.bind_some, blank, if_true,
      trimStart_blanks_append blankGap, isType.trimStart_append, named, dotted, opened, closed,
      braced]

/-- A text that holds no opening has none found in it. -/
theorem findArrayOpening?_eq_none {text : Text}
    (absent : ∀ opening, IsArrayOpening opening → ¬opening <:+: text) :
    findArrayOpening? text = none := by
  induction text with
  | nil => rfl
  | cons c rest ih =>
    rw [findArrayOpening?, Option.or_eq_none_iff]
    constructor
    · cases read : afterArrayOpening? (c :: rest) with
      | none => rfl
      | some behind =>
        obtain ⟨opening, isOpening, shape⟩ := afterArrayOpening?_eq_some_iff.mp read
        exact absurd ⟨[], behind, shape.symm⟩ (absent opening isOpening)
    · apply ih
      intro opening isOpening inside
      exact absent opening isOpening (inside.trans (List.suffix_cons c rest).isInfix)

/-- An opening at the beginning of a text is the first one. -/
theorem findArrayOpening?_append {opening : Text} (isOpening : IsArrayOpening opening)
    (rest : Text) : findArrayOpening? (opening ++ rest) = some rest := by
  have read : afterArrayOpening? (opening ++ rest) = some rest :=
    afterArrayOpening?_eq_some_iff.mpr ⟨opening, isOpening, rfl⟩
  cases whole : opening ++ rest with
  | nil =>
    rw [whole] at read
    cases read
  | cons c behind =>
    rw [whole] at read
    rw [findArrayOpening?, read]
    rfl

end MessageKeys.Call
