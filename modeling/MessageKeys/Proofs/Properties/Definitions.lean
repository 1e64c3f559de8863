import MessageKeys.Properties.Insertion
import MessageKeys.Proofs.Text.Splitting
import MessageKeys.Proofs.Text.Trimming

/-!
What a properties file defines, line by line and as keys and templates without their lines.

Everything about the lines of a content follows from one equation: a line end divides them
(`definedLines_newline`). A carriage return behind a line changes nothing, and a text without line
ends is one line. The keys that a line can define are exactly those that `newLine` writes so that
they are read back: `definition?_newLine` and `isKey_of_definition?`.
-/
namespace MessageKeys.Properties

/-- The keys and templates that a content defines, in order. -/
def definitions (content : Text) : List (Text × Text) := (lines content).filterMap definition?

/-- A text that can stand as the key of a definition. -/
structure IsKey (key : Text) : Prop where
  filled : key ≠ []
  trimmed : Text.IsTrimmed key
  one_line : '\n' ∉ key
  no_sign : '=' ∉ key
  no_comment : key.head? ≠ some '#'

instance (key : Text) : Decidable (IsKey key) :=
  decidable_of_iff
    (key ≠ [] ∧ Text.IsTrimmed key ∧ '\n' ∉ key ∧ '=' ∉ key ∧ key.head? ≠ some '#')
    ⟨fun ⟨filled, trimmed, one_line, no_sign, no_comment⟩ =>
      ⟨filled, trimmed, one_line, no_sign, no_comment⟩,
    fun isKey => ⟨isKey.filled, isKey.trimmed, isKey.one_line, isKey.no_sign, isKey.no_comment⟩⟩

/-- A text that can stand as the template of a definition. -/
structure IsTemplate (value : Text) : Prop where
  trimmed : Text.IsTrimmed value
  one_line : '\n' ∉ value

theorem entriesFrom_definitions (file : Text) (line : Nat) (texts : List Text) :
    (entriesFrom file line texts).map (fun entry => (entry.key, entry.value)) =
      texts.filterMap definition? := by
  induction texts generalizing line with
  | nil => rfl
  | cons text more ih =>
    rw [entriesFrom, List.map_append, ih, List.filterMap_cons]
    cases definition? text <;> rfl

/-- The entries of a file are its definitions with their places. -/
theorem parse_definitions (content file : Text) :
    (parse content file).map (fun entry => (entry.key, entry.value)) = definitions content :=
  entriesFrom_definitions file 1 _

theorem keys_parse (content file : Text) :
    (parse content file).map (·.key) = (definitions content).map (·.1) := by
  rw [← parse_definitions content file, List.map_map]
  rfl

/-! ## One line -/

/-- The key and template of a line are those of the line without the carriage return behind it. -/
theorem definition?_return (line : Text) : definition? (line ++ ['\r']) = definition? line := by
  have blank : ∀ c ∈ ['\r'], Text.isBlank c := by
    intro c member
    rw [List.mem_singleton.mp member]
    rfl
  have trims := fun text : Text => Text.trim_append_blanks text blank
  unfold definition?
  cases cut : Text.cutFirst? '=' line with
  | none =>
    have absent : '=' ∉ line ++ ['\r'] := by
      rw [List.mem_append, not_or]
      exact ⟨Text.cutFirst?_eq_none_iff.mp cut, by decide⟩
    simp only [Text.cutFirst?_eq_none_iff.mpr absent, trims, Option.getD_none]
  | some parts =>
    obtain ⟨before, after⟩ := parts
    obtain ⟨whole, absent⟩ := Text.cutFirst?_eq_some cut
    have longer : Text.cutFirst? '=' (line ++ ['\r']) = some (before, after ++ ['\r']) := by
      rw [whole, List.append_assoc]
      exact Text.cutFirst?_append absent _
    simp only [longer, trims, Option.getD_some]

theorem definition?_dropTail (line : Text) :
    definition? (Text.dropTail ['\r'] line) = definition? line := by
  rcases Text.dropTail_or ['\r'] line with same | longer
  · rw [same]
  · rw [congrArg definition? longer, definition?_return]

/-- A new line defines its key and template. -/
theorem definition?_newLine {key value : Text} (isKey : IsKey key) (isTemplate : IsTemplate value) :
    definition? (newLine key value) = some (key, value) := by
  obtain ⟨c, rest, shape⟩ := List.exists_cons_of_ne_nil isKey.filled
  have inked : Text.isBlank c = false := Text.IsTrimmed.not_blank (shape ▸ isKey.trimmed)
  have start : Text.trimStart (newLine key value) = c :: (rest ++ '=' :: value) := by
    rw [newLine, shape]
    exact Text.trimStart_cons_of_not_blank inked _
  obtain ⟨kept, line⟩ := Text.trim_eq_cons start
  have plain : c ≠ '#' := by
    have head := isKey.no_comment
    rw [shape] at head
    simpa using head
  have cut : Text.cutFirst? '=' (newLine key value) = some (key, value) :=
    Text.cutFirst?_append isKey.no_sign value
  have trimmedKey : Text.trim key = key := isKey.trimmed
  have trimmedValue : Text.trim value = value := isTemplate.trimmed
  simp [definition?, line, plain, cut, trimmedKey, trimmedValue, isKey.filled]

/-- What a line defines can be written again. -/
theorem isKey_of_definition? {line key value : Text} (single : '\n' ∉ line)
    (defined : definition? line = some (key, value)) : IsKey key ∧ IsTemplate value := by
  simp only [definition?] at defined
  split at defined
  · cases defined
  next shown =>
    rw [not_or] at shown
    -- Both ways to cut the line give a key part in front of it without an equals sign.
    obtain ⟨before, after, rest, cut, whole, absent, inside⟩ : ∃ before after rest,
        (Text.cutFirst? '=' line).getD (line, []) = (before, after) ∧ line = before ++ rest ∧
          '=' ∉ before ∧ '\n' ∉ after := by
      cases cut : Text.cutFirst? '=' line with
      | none => exact ⟨line, [], [], rfl, by simp, Text.cutFirst?_eq_none_iff.mp cut, by simp⟩
      | some parts =>
        obtain ⟨whole, absent⟩ := Text.cutFirst?_eq_some cut
        refine ⟨parts.1, parts.2, '=' :: parts.2, rfl, whole, absent, ?_⟩
        intro member
        exact single (by rw [whole]; simp [member])
    rw [cut] at defined
    dsimp only at defined
    split at defined
    · cases defined
    next filled =>
      cases defined
      refine ⟨⟨filled, Text.isTrimmed_trim _, ?_, ?_, ?_⟩, Text.isTrimmed_trim _, ?_⟩
      · intro member
        exact single (by rw [whole]; simp [Text.mem_of_mem_trim member])
      · intro member
        exact absent (Text.mem_of_mem_trim member)
      · obtain ⟨c, more, start⟩ := Text.trimStart_ne_nil filled
        obtain ⟨keptKey, keyShape⟩ := Text.trim_eq_cons start
        have lineStart : Text.trimStart line = c :: (more ++ rest) := by
          rw [whole, Text.trimStart_append (by simp [start]), start]
          rfl
        obtain ⟨keptLine, lineShape⟩ := Text.trim_eq_cons lineStart
        rw [lineShape] at shown
        rw [keyShape]
        exact shown.2
      · intro member
        exact inside (Text.mem_of_mem_trim member)

/-! ## Several lines -/

/-- What each line of a content defines. -/
def definedLines (content : Text) : List (Option (Text × Text)) := (lines content).map definition?

theorem reduceOption_eq (slots : List (Option (Text × Text))) :
    slots.reduceOption = slots.filterMap id := rfl

theorem definitions_eq (content : Text) :
    definitions content = (definedLines content).reduceOption := by
  rw [definitions, definedLines, reduceOption_eq, List.filterMap_map]
  rfl

theorem definedLines_eq (content : Text) :
    definedLines content = (List.splitOn '\n' content).map definition? := by
  rw [definedLines, lines, List.map_map]
  congr 1
  funext line
  exact definition?_dropTail line

@[simp] theorem definedLines_nil : definedLines [] = [none] := by
  rw [definedLines_eq]
  rfl

/-- A line end divides the lines. -/
theorem definedLines_newline (a b : Text) :
    definedLines (a ++ '\n' :: b) = definedLines a ++ definedLines b := by
  rw [definedLines_eq, List.splitOn_append_cons_self, List.map_append, ← definedLines_eq,
    ← definedLines_eq]

theorem definedLines_line {line : Text} (single : '\n' ∉ line) :
    definedLines line = [definition? line] := by
  rw [definedLines_eq, List.splitOn_eq_singleton single, List.map_singleton]

/-- The last line may have a carriage return behind it. -/
theorem definedLines_return (content : Text) :
    definedLines (content ++ ['\r']) = definedLines content := by
  induction content using Text.induction_on_parts '\n' with
  | last line single =>
    have longer : '\n' ∉ line ++ ['\r'] := by simpa using single
    rw [definedLines_line longer, definedLines_line single, definition?_return]
  | more line rest single ih =>
    rw [List.append_assoc, List.cons_append, definedLines_newline, definedLines_newline, ih]

end MessageKeys.Properties
