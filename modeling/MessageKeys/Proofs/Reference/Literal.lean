import MessageKeys.Proofs.Call.Rendering
import MessageKeys.Proofs.Call.Spans
import MessageKeys.Proofs.Reference.Lookup

/-!
The key of a literal, as calls and as references read it.

The key of a call is its first argument without its double quotes. A reference takes the text up to
the next quote of either kind. Both read a literal from the quote in front of it on, so that a
reference to the first character of a call's literal holds what the literal has in front of its
first apostrophe (`literal_up_to_apostrophe`). The two keys are therefore the same, but for blanks
around them, exactly when no apostrophe stands in the literal.
-/
namespace MessageKeys

open Text Call

/-- The first argument of a call is one literal in double quotes. -/
structure Call.Site.HasLiteral (site : Site) (text : Text) : Prop where
  first : (Call.arguments site.list.text).head?.map (·.text) = some (literal text)
  plain : '"' ∉ text

/-- The part of a text in front of its first apostrophe. -/
def beforeApostrophe (text : Text) : Text := text.takeWhile (· != '\'')

theorem not_mem_beforeApostrophe (text : Text) : '\'' ∉ beforeApostrophe text := by
  intro member
  exact absurd (List.all_eq_true.mp List.all_takeWhile _ member) (by decide)

theorem beforeApostrophe_eq_self {text : Text} (absent : '\'' ∉ text) :
    beforeApostrophe text = text := by
  have apart : ∀ c ∈ text, (c != '\'') = true := by
    intro c member
    rw [bne_iff_ne]
    rintro rfl
    exact absent member
  calc beforeApostrophe text
      = (text ++ []).takeWhile (· != '\'') := by rw [beforeApostrophe, List.append_nil]
    _ = text ++ [].takeWhile (· != '\'') := List.takeWhile_append_of_pos apart
    _ = text := List.append_nil text

/-- Blanks at the beginning of a text stand in front of its first apostrophe. -/
theorem size_blankLead_le (text : Text) :
    size (blankLead text) ≤ size (beforeApostrophe text) := by
  induction text with
  | nil => exact Nat.le_refl 0
  | cons c rest ih =>
    cases blank : isBlank c with
    | false =>
      have none : blankLead (c :: rest) = [] := by simp [blankLead, blank]
      rw [none, size_nil]
      exact Nat.zero_le _
    | true =>
      have other : c ≠ '\'' := by
        rintro rfl
        exact absurd blank (by decide)
      have lead : blankLead (c :: rest) = c :: blankLead rest := by simp [blankLead, blank]
      have front : beforeApostrophe (c :: rest) = c :: beforeApostrophe rest := by
        simp [beforeApostrophe, other]
      rw [lead, front, size_cons, size_cons]
      omega

/-- Up to its first apostrophe the text of a literal stands between two quotes. -/
theorem inLiteral_beforeApostrophe {text : Text} (plain : '"' ∉ text) (before after : Text) :
    ∃ behind, before ++ literal text ++ after =
        (before ++ ['"']) ++ beforeApostrophe text ++ behind ∧
      InLiteral (before ++ ['"']) (beforeApostrophe text) behind := by
  have parts : beforeApostrophe text ++ text.dropWhile (· != '\'') = text :=
    List.takeWhile_append_dropWhile
  refine ⟨text.dropWhile (· != '\'') ++ '"' :: after, ?_, ⟨before, '"', rfl, rfl⟩, ?_, ?_⟩
  · calc before ++ literal text ++ after
        = before ++ literal (beforeApostrophe text ++ text.dropWhile (· != '\'')) ++ after := by
          rw [parts]
      _ = (before ++ ['"']) ++ beforeApostrophe text ++
          (text.dropWhile (· != '\'') ++ '"' :: after) := by
          simp [literal]
  · intro c member
    have noApostrophe : c ≠ '\'' := fun same => not_mem_beforeApostrophe text (same ▸ member)
    have noQuote : c ≠ '"' := fun same =>
      plain (same ▸ (List.takeWhile_sublist _).subset member)
    simp [Quoting.isQuote, noApostrophe, noQuote]
  · cases rest : text.dropWhile (· != '\'') with
    | nil => exact ⟨'"', after, rfl, rfl⟩
    | cons c more =>
      have stopped := List.head?_dropWhile_not (· != '\'') text
      rw [rest] at stopped
      have apostrophe : c = '\'' := by simpa using stopped
      exact ⟨c, more ++ '"' :: after, rfl, by rw [apostrophe]; rfl⟩

variable {source text : Text} {methods : List MethodName} {site : Site} {m : Matcher}
  {reference : Reference}

/-- The literal of a call stands in the source, its text at the position of the key. -/
theorem stands_literal (found : site ∈ sites source methods) (held : site.HasLiteral text) :
    site.key = text ∧ ∃ before after, source = before ++ literal text ++ after ∧
      size before + 1 = site.keyStart := by
  obtain ⟨first, read, ⟨before, after, whole, place⟩, key, position⟩ :=
    stands_first_of_mem_sites found
  have shape : first.text = literal text := by
    have texts := congrArg List.head? (expressions_text site.list.text)
    have same := held.first
    rw [read, List.map_cons, List.head?_cons, List.head?_map] at texts
    rw [← texts, Option.some.injEq] at same
    exact same
  rw [shape] at whole key position
  rw [unquote_literal] at key position
  exact ⟨key, before, after, whole, by omega⟩

/-- A reference to the first character of a call's literal holds the literal's text up to its first
apostrophe. -/
theorem literal_up_to_apostrophe (found : site ∈ sites source methods)
    (held : site.HasLiteral text) (noAnnotations : m.annotations = [])
    (reported : reference ∈ m.references source)
    (starts : reference.start = site.keyStart + size (blankLead text)) :
    reference.key = trim (beforeApostrophe text) := by
  obtain ⟨_, before, after, whole, place⟩ := stands_literal found held
  obtain ⟨behind, divided, literal⟩ := inLiteral_beforeApostrophe held.plain before after
  obtain ⟨front, raw, rest, cut, quoted, made⟩ := literal_of_mem_references noAnnotations reported
  obtain ⟨lead, tail, parts, position⟩ := stands_of_mem_references reported
  have bounds := Reference.within_of_ofRaw? made
  have blanks := size_blankLead_le text
  have opened : size (before ++ ['"']) = size before + 1 := by rw [size_append]; rfl
  -- The position of the reference belongs to both literals.
  have here : (before ++ ['"']) ++ beforeApostrophe text ++ behind =
      lead ++ (reference.key ++ tail) := by
    rw [← divided, ← whole, parts, List.append_assoc]
  have there : front ++ raw ++ rest = lead ++ (reference.key ++ tail) := by
    rw [← cut, parts, List.append_assoc]
  have same : beforeApostrophe text = raw :=
    (literal.unique quoted here there (by omega) (by omega) (by omega) (by omega)).2
  rw [same]
  unfold Reference.ofRaw? at made
  split at made
  · cases made
  · cases made
    rfl

/-- A call and a reference that read one literal from its first character on have the same key, the
reference's without blanks around it, exactly when the literal holds no apostrophe; the keys that
are looked up are the same exactly when the literal has no blanks around it either. -/
theorem literal_keys_agree_iff {names : List Text} (compiled : Matcher.ofTexts names [] = .ok m)
    (found : site ∈ sites source methods) (held : site.HasLiteral text)
    (reported : reference ∈ m.references source)
    (starts : reference.start = site.keyStart + size (blankLead text)) :
    (reference.key = trim text ↔ '\'' ∉ text) ∧
      (reference.key = site.key ↔ '\'' ∉ text ∧ IsTrimmed text) := by
  have noAnnotations : m.annotations = [] := by
    cases compiled
    rfl
  have key := literal_up_to_apostrophe found held noAnnotations reported starts
  have trimmed : reference.key = trim text ↔ '\'' ∉ text := by
    constructor
    · intro same inside
      have kept : '\'' ∈ trim text := mem_trim_of_not_blank inside (by decide)
      rw [← same, key] at kept
      exact not_mem_beforeApostrophe text (mem_of_mem_trim kept)
    · intro absent
      rw [key, beforeApostrophe_eq_self absent]
  refine ⟨trimmed, ?_⟩
  rw [(stands_literal found held).1]
  constructor
  · intro same
    have isTrimmed : IsTrimmed text := by
      rw [← same, key]
      exact isTrimmed_trim _
    exact ⟨trimmed.mp (same.trans isTrimmed.symm), isTrimmed⟩
  · rintro ⟨absent, isTrimmed⟩
    exact (trimmed.mpr absent).trans isTrimmed

/-- What a call says about its key: the key, its position, and the first argument as written. -/
def Call.Site.firstRead (site : Site) : Text × Nat × Option Text :=
  (site.key, site.keyStart, (Call.arguments site.list.text).head?.map (·.text))

theorem exists_site_of_firstRead {key : Text} {start : Nat} {text : Text} (plain : '"' ∉ text)
    (listed : (key, start, some (literal text)) ∈ (sites source methods).map Site.firstRead) :
    ∃ site ∈ sites source methods, site.HasLiteral text ∧ site.key = key ∧
      site.keyStart = start := by
  obtain ⟨site, found, read⟩ := List.mem_map.mp listed
  simp only [Site.firstRead, Prod.mk.injEq] at read
  exact ⟨site, found, ⟨read.2.2, plain⟩, read.1, read.2.1⟩

/-- What refers to keys when the method `log` is configured. -/
def logMatcher : Matcher := ⟨MethodName.ofTexts ["log".toList, Matcher.implicitMethod], []⟩

/-- A call whose literal has blanks, a parenthesis and an escape in it. -/
def paddedCall : Text := "é.log( \" a(b\\t,) \" , 'x');".toList

theorem literal_keys_agree_iff_padded :
    ∃ site ∈ sites paddedCall (MethodName.ofTexts ["log".toList]),
      site.HasLiteral " a(b\\t,) ".toList ∧
      ∃ m, Matcher.ofTexts ["log".toList] [] = .ok m ∧
        ∃ reference ∈ m.references paddedCall,
          reference.start = site.keyStart + size (blankLead " a(b\\t,) ".toList) ∧
          reference.key = "a(b\\t,)".toList ∧ reference.key ≠ site.key := by
  obtain ⟨site, found, held, -, start⟩ := exists_site_of_firstRead (by decide)
    (show (" a(b\\t,) ".toList, 9, some (literal " a(b\\t,) ".toList)) ∈
        (sites paddedCall (MethodName.ofTexts ["log".toList])).map Site.firstRead by
      decide +kernel)
  have compiled : Matcher.ofTexts ["log".toList] [] = .ok logMatcher := rfl
  have reported : ⟨"a(b\\t,)".toList, 10⟩ ∈ logMatcher.references paddedCall := by decide +kernel
  have starts : 10 = site.keyStart + size (blankLead " a(b\\t,) ".toList) := by
    rw [start]
    decide
  obtain ⟨trimmed, same⟩ := literal_keys_agree_iff compiled found held reported starts
  exact ⟨site, found, held, _, compiled, _, reported, starts, trimmed.mpr (by decide),
    fun equal => absurd (same.mp equal).2 (by decide)⟩

/-- A call whose literal holds an apostrophe. -/
def apostropheCall : Text := "log(\"it's\", a);".toList

/-- The call asks for the key `it's`, the reference to the same literal for the key `it`. -/
theorem keys_differ_at_apostrophe :
    ∃ site ∈ sites apostropheCall (MethodName.ofTexts ["log".toList]),
      site.HasLiteral "it's".toList ∧ site.key = "it's".toList ∧
      ∃ m, Matcher.ofTexts ["log".toList] [] = .ok m ∧
        ∃ reference ∈ m.references apostropheCall,
          reference.start = site.keyStart + size (blankLead "it's".toList) ∧
          reference.key = "it".toList ∧ reference.key ≠ trim "it's".toList := by
  obtain ⟨site, found, held, key, start⟩ := exists_site_of_firstRead (by decide)
    (show ("it's".toList, 5, some (literal "it's".toList)) ∈
        (sites apostropheCall (MethodName.ofTexts ["log".toList])).map Site.firstRead by
      decide +kernel)
  have reported : ⟨"it".toList, 5⟩ ∈ logMatcher.references apostropheCall := by decide +kernel
  refine ⟨site, found, held, key, _, rfl, _, reported, ?_, rfl, by decide⟩
  rw [start]
  decide

end MessageKeys
