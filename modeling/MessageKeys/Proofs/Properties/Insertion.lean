import Mathlib.Data.List.ReduceOption
import MessageKeys.Proofs.Properties.Definitions

/-!
What adding a line does to the lines of a file and to its definitions.

`insert?_eq` says once what an insertion can do: the lines of the content are kept, a line is put in
front of the first one whose key comes after the new key, and all are joined with the content's line
end. A blank line behind the last one may come or go. Hence an insertion is refused exactly when the
content defines the key, and one of a key and template that can be written adds just the line of
this definition (`definedLines_withLine`, `definedLines_insert?`).
-/
namespace MessageKeys.Properties

theorem lines_ne_nil (content : Text) : lines content ≠ [] := by
  rw [lines, ne_eq, List.map_eq_nil_iff]
  exact List.splitOn_ne_nil _ _

/-- No line holds a line end. -/
theorem not_mem_of_mem_lines {content line : Text} (member : line ∈ lines content) :
    '\n' ∉ line := by
  obtain ⟨raw, inside, rfl⟩ := List.mem_map.mp member
  have single := Text.not_mem_of_mem_splitOn inside
  rcases Text.dropTail_or ['\r'] raw with same | longer
  · rw [same]
    exact single
  · intro held
    rw [longer] at single
    exact single (List.mem_append_left _ held)

/-- The line end of a content divides the lines. -/
theorem definedLines_lineEnd (content a b : Text) :
    definedLines (a ++ lineEnd content ++ b) = definedLines a ++ definedLines b := by
  unfold lineEnd
  split
  · have shape : a ++ ['\r', '\n'] ++ b = (a ++ ['\r']) ++ '\n' :: b := by simp
    rw [shape, definedLines_newline, definedLines_return]
  · have shape : a ++ ['\n'] ++ b = a ++ '\n' :: b := by simp
    rw [shape, definedLines_newline]

theorem definedLines_append_lineEnd (content a : Text) :
    definedLines (a ++ lineEnd content) = definedLines a ++ [none] := by
  have divided := definedLines_lineEnd content a []
  rwa [List.append_nil, definedLines_nil] at divided

/-- Lines that are joined are lines again. -/
theorem definedLines_join (content : Text) {texts : List Text} (filled : texts ≠ [])
    (single : ∀ text ∈ texts, '\n' ∉ text) :
    definedLines (Text.join (lineEnd content) texts) = texts.map definition? := by
  fun_induction Text.join (lineEnd content) texts with
  | case1 => exact absurd rfl filled
  | case2 last => exact definedLines_line (single last (by simp))
  | case3 first second more ih =>
    have rest := ih (by simp) fun text member => single text (List.mem_cons_of_mem _ member)
    rw [definedLines_lineEnd, rest, definedLines_line (single first (by simp))]
    rfl

/-- Lines, maybe with a blank one behind them. -/
def BlankEnd (slots whole : List (Option (Text × Text))) : Prop :=
  whole = slots ∨ whole = slots ++ [none]

theorem BlankEnd.reduceOption {slots whole : List (Option (Text × Text))}
    (ends : BlankEnd slots whole) : whole.reduceOption = slots.reduceOption := by
  rcases ends with rfl | rfl
  · rfl
  · rw [List.reduceOption_append, List.reduceOption_singleton]
    simp

/-- A content without a final line end. -/
def body (content : Text) : Text :=
  if content.getLast? = some '\n' then Text.dropTail ['\r'] content.dropLast else content

/-- A final line end leaves a blank line behind the others. -/
theorem definedLines_ended {content : Text} (ended : content.getLast? = some '\n') :
    definedLines content = definedLines (body content) ++ [none] := by
  obtain ⟨front, whole⟩ := List.getLast?_eq_some_iff.mp ended
  have kept : definedLines (Text.dropTail ['\r'] front) = definedLines front := by
    rcases Text.dropTail_or ['\r'] front with same | longer
    · rw [same]
    · exact (definedLines_return _).symm.trans (congrArg definedLines longer.symm)
  rw [body, if_pos ended, whole, List.dropLast_concat, kept, definedLines_newline,
    definedLines_nil]

theorem definedLines_body (content : Text) :
    BlankEnd (definedLines (body content)) (definedLines content) := by
  by_cases ended : content.getLast? = some '\n'
  · exact .inr (definedLines_ended ended)
  · exact .inl (by rw [body, if_neg ended])

/-- The key of a line is that of its definition. -/
theorem key?_eq (line : Text) : key? line = (definition? line).map (·.1) := by
  unfold key? definition?
  cases Text.cutFirst? '=' line with
  | none =>
    dsimp only [Option.map_none, Option.getD_none]
    split
    · rfl
    · split <;> rfl
  | some parts =>
    dsimp only [Option.map_some, Option.getD_some]
    split
    · rfl
    · split <;> rfl

/-- Whether a line stands in front of the place of a key. -/
def staysBefore (key line : Text) : Bool := !(key? line).any (isAfter · key)

theorem staysBefore_nil (key : Text) : staysBefore key [] = true := rfl

/-- The lines of a content with a new one at its place. -/
def withLine (existing : List Text) (key value : Text) : List Text :=
  existing.takeWhile (staysBefore key) ++ newLine key value :: existing.dropWhile (staysBefore key)

theorem any_key?_iff (texts : List Text) (key : Text) :
    (texts.any fun line => key? line == some key) = true ↔
      key ∈ (texts.filterMap definition?).map (·.1) := by
  simp only [List.any_eq_true, beq_iff_eq, key?_eq, List.mem_map, List.mem_filterMap,
    Option.map_eq_some_iff]
  constructor
  · rintro ⟨line, member, pair, defined, same⟩
    exact ⟨pair, ⟨line, member, defined⟩, same⟩
  · rintro ⟨pair, ⟨line, member, defined⟩, same⟩
    exact ⟨line, member, pair, defined, same⟩

/-- An insertion into a content that is not empty, by its parts. -/
theorem insert?_of_filled {content : Text} (filled : content ≠ []) (key value : Text) :
    insert? content key value =
      if (lines (body content)).any fun line => key? line == some key then none
      else
        let joined := Text.join (lineEnd content) (withLine (lines (body content)) key value)
        some (if content.getLast? = some '\n' ∨
            (lines (body content)).dropWhile (staysBefore key) = [] then joined ++ lineEnd content
          else joined) := by
  rw [insert?, if_neg filled]
  rfl

/-- The lines between which a new one is put: none of an empty content, and no blank one behind the
final line end. -/
def existingLines (content : Text) : List Text :=
  if content = [] then [] else lines (body content)

theorem not_mem_of_mem_existingLines {content line : Text}
    (member : line ∈ existingLines content) : '\n' ∉ line := by
  unfold existingLines at member
  split at member
  · cases member
  · exact not_mem_of_mem_lines member

/-- A line that is put in leaves every line without a line end, if key and template have none. -/
theorem not_mem_of_mem_withLine {content key value line : Text} (keySingle : '\n' ∉ key)
    (valueSingle : '\n' ∉ value) (member : line ∈ withLine (existingLines content) key value) :
    '\n' ∉ line := by
  rw [withLine, List.mem_append, List.mem_cons] at member
  rcases member with before | rfl | after
  · exact not_mem_of_mem_existingLines ((List.takeWhile_sublist _).subset before)
  · rw [newLine, List.mem_append, List.mem_cons, not_or, not_or]
    exact ⟨keySingle, by decide, valueSingle⟩
  · exact not_mem_of_mem_existingLines ((List.dropWhile_sublist _).subset after)

/-- What each of these lines defines. -/
def existingSlots (content : Text) : List (Option (Text × Text)) :=
  (existingLines content).map definition?

theorem blankEnd_existingSlots (content : Text) :
    BlankEnd (existingSlots content) (definedLines content) := by
  by_cases empty : content = []
  · exact .inr (by simp [existingSlots, existingLines, empty])
  · rw [existingSlots, existingLines, if_neg empty]
    exact definedLines_body content

theorem definitions_eq_existing (content : Text) :
    definitions content = (existingSlots content).reduceOption := by
  rw [definitions_eq, (blankEnd_existingSlots content).reduceOption]

/-- What stands behind the last line of a changed content. -/
def lastEnd (content key : Text) : Text :=
  if content.getLast? = some '\n' ∨ (existingLines content).dropWhile (staysBefore key) = [] then
    lineEnd content
  else []

/-- What an insertion does. -/
theorem insert?_eq (content key value : Text) :
    insert? content key value =
      if key ∈ (definitions content).map (·.1) then none
      else some (Text.join (lineEnd content) (withLine (existingLines content) key value) ++
        lastEnd content key) := by
  by_cases empty : content = []
  · simp [insert?, empty, existingLines, lastEnd, withLine, Text.join, definitions_eq]
  · have refused := any_key?_iff (lines (body content)) key
    have defined : (lines (body content)).filterMap definition? = definitions content := by
      rw [definitions_eq_existing, existingSlots, existingLines, if_neg empty, reduceOption_eq,
        List.filterMap_map]
      rfl
    rw [defined] at refused
    rw [insert?_of_filled empty, lastEnd, existingLines, if_neg empty]
    simp only [refused]
    by_cases last : content.getLast? = some '\n' ∨
        (lines (body content)).dropWhile (staysBefore key) = []
    · rw [if_pos last, if_pos last]
    · rw [if_neg last, if_neg last, List.append_nil]

/-- An insertion is refused exactly when the content defines the key. -/
theorem insert?_eq_none_iff {content key value : Text} :
    insert? content key value = none ↔ key ∈ (definitions content).map (·.1) := by
  rw [insert?_eq]
  split
  · next defined => exact ⟨fun _ => defined, fun _ => rfl⟩
  · next undefined =>
    constructor
    · intro same
      cases same
    · intro defined
      exact absurd defined undefined

theorem not_mem_keys_of_insert? {content key value changed : Text}
    (inserted : insert? content key value = some changed) :
    key ∉ (definitions content).map (·.1) := by
  intro defined
  rw [← @insert?_eq_none_iff content key value, inserted] at defined
  cases defined

section Order

variable {key other third : Text}

theorem isAfter_iff :
    isAfter key other = true ↔ compare (Text.lowercase other) (Text.lowercase key) = .lt := by
  rw [isAfter, beq_iff_eq, Std.OrientedCmp.gt_iff_lt]

theorem isAfter_asymm (after : isAfter key other = true) : isAfter other key = false := by
  rw [isAfter_iff] at after
  rw [isAfter, after]
  rfl

theorem isAfter_trans (after : isAfter key other = true) (later : isAfter third key = true) :
    isAfter third other = true := by
  rw [isAfter_iff] at *
  exact Std.TransCmp.lt_trans after later

theorem isAfter_total (different : Text.lowercase key ≠ Text.lowercase other) :
    isAfter key other = true ∨ isAfter other key = true := by
  rw [isAfter_iff, isAfter_iff]
  cases compared : compare (Text.lowercase other) (Text.lowercase key) with
  | lt => exact .inl rfl
  | eq => exact absurd (Std.LawfulEqCmp.eq_of_compare compared).symm different
  | gt => exact .inr (Std.OrientedCmp.gt_iff_lt.mp compared)

end Order

/-- Whether a definition stands in front of the place of a key. -/
def precedes (key : Text) (definition : Text × Text) : Bool := !isAfter definition.1 key

theorem staysBefore_eq (key : Text) :
    staysBefore key = fun line => (definition? line).all (precedes key) := by
  funext line
  unfold staysBefore precedes
  rw [key?_eq]
  cases definition? line <;> rfl

/-- Lines with a definition in front of the first one whose key comes after its own. -/
def withDefinition (slots : List (Option (Text × Text))) (key value : Text) :
    List (Option (Text × Text)) :=
  slots.takeWhile (·.all (precedes key)) ++
    some (key, value) :: slots.dropWhile (·.all (precedes key))

/-- An insertion of what can be written adds one line. -/
theorem definedLines_withLine {content key value : Text} (isKey : IsKey key)
    (isTemplate : IsTemplate value) :
    definedLines (Text.join (lineEnd content) (withLine (existingLines content) key value)) =
      withDefinition (existingSlots content) key value := by
  have single : ∀ line ∈ withLine (existingLines content) key value, '\n' ∉ line :=
    fun line member => not_mem_of_mem_withLine isKey.one_line isTemplate.one_line member
  rw [definedLines_join content (by simp [withLine]) single, withLine, withDefinition,
    existingSlots, List.map_append, List.map_cons, definition?_newLine isKey isTemplate,
    staysBefore_eq, List.takeWhile_map, List.dropWhile_map]
  rfl

/-- There may be a blank line at the end as well. -/
theorem definedLines_insert? {content key value changed : Text} (isKey : IsKey key)
    (isTemplate : IsTemplate value) (inserted : insert? content key value = some changed) :
    ∃ slots, BlankEnd slots (definedLines content) ∧
      BlankEnd (withDefinition slots key value) (definedLines changed) := by
  refine ⟨existingSlots content, blankEnd_existingSlots content, ?_⟩
  rw [insert?_eq] at inserted
  split at inserted
  · cases inserted
  rw [Option.some.injEq, lastEnd] at inserted
  rw [← inserted]
  split
  · rw [definedLines_append_lineEnd, definedLines_withLine isKey isTemplate]
    exact .inr rfl
  · rw [List.append_nil, definedLines_withLine isKey isTemplate]
    exact .inl rfl

/-- Among the definitions alone the place is found in the same way. -/
theorem reduceOption_withDefinition (slots : List (Option (Text × Text))) (key value : Text) :
    (withDefinition slots key value).reduceOption =
      slots.reduceOption.takeWhile (precedes key) ++
        (key, value) :: slots.reduceOption.dropWhile (precedes key) := by
  rw [withDefinition, List.reduceOption_append, List.reduceOption_cons_of_some, reduceOption_eq,
    reduceOption_eq, reduceOption_eq, List.takeWhile_filterMap, List.dropWhile_filterMap]
  rfl

/-- The definitions gain one, in front of the first that comes after its key. -/
theorem definitions_insert? {content key value changed : Text} (isKey : IsKey key)
    (isTemplate : IsTemplate value) (inserted : insert? content key value = some changed) :
    definitions changed =
      (definitions content).takeWhile (precedes key) ++
        (key, value) :: (definitions content).dropWhile (precedes key) := by
  obtain ⟨slots, before, after⟩ := definedLines_insert? isKey isTemplate inserted
  rw [definitions_eq, definitions_eq, before.reduceOption, after.reduceOption,
    reduceOption_withDefinition]

/-- The new definition is one more. -/
theorem mem_definitions_insert? {content key value changed : Text} (isKey : IsKey key)
    (isTemplate : IsTemplate value) (inserted : insert? content key value = some changed)
    (definition : Text × Text) :
    definition ∈ definitions changed ↔
      definition = (key, value) ∨ definition ∈ definitions content := by
  have parts : (definitions content).takeWhile (precedes key) ++
      (definitions content).dropWhile (precedes key) = definitions content :=
    List.takeWhile_append_dropWhile
  have old : definition ∈ definitions content ↔
      definition ∈ (definitions content).takeWhile (precedes key) ∨
        definition ∈ (definitions content).dropWhile (precedes key) := by
    rw [← List.mem_append, parts]
  rw [definitions_insert? isKey isTemplate inserted, List.mem_append, List.mem_cons, old]
  exact or_left_comm

/-! ## An insertion changes the content -/

theorem count_dropTail (text : Text) :
    (Text.dropTail ['\r'] text).count '=' = text.count '=' := by
  rcases Text.dropTail_or ['\r'] text with same | longer
  · rw [same]
  · have counted := congrArg (List.count '=') longer
    rw [List.count_append] at counted
    exact counted.symm

theorem count_lines (content : Text) :
    (lines content).flatten.count '=' = content.count '=' := by
  have parts : ∀ texts : List Text, (texts.map (Text.dropTail ['\r'])).flatten.count '=' =
      texts.flatten.count '=' := by
    intro texts
    induction texts with
    | nil => rfl
    | cons text more ih =>
      rw [List.map_cons, List.flatten_cons, List.flatten_cons, List.count_append,
        List.count_append, count_dropTail, ih]
  rw [lines, parts, ← Text.count_join (by decide : '=' ∉ ['\n']), Text.join_eq_intercalate,
    List.intercalate_splitOn]

theorem count_body (content : Text) : (body content).count '=' = content.count '=' := by
  unfold body
  split
  · next terminated =>
    obtain ⟨front, whole⟩ := List.getLast?_eq_some_iff.mp terminated
    rw [whole, List.dropLast_concat, count_dropTail, List.count_append]
    rfl
  · rfl

theorem not_mem_lineEnd (content : Text) : '=' ∉ lineEnd content := by
  unfold lineEnd
  split <;> decide

/-- An insertion adds an equals sign at least, so that the content is another one. -/
theorem count_lt_of_insert? {content key value changed : Text}
    (inserted : insert? content key value = some changed) :
    content.count '=' < changed.count '=' := by
  have marked : 0 < (newLine key value).count '=' := by
    rw [newLine, List.count_append, List.count_cons_self]
    omega
  by_cases empty : content = []
  · rw [insert?, if_pos empty, Option.some.injEq] at inserted
    rw [← inserted, empty, List.count_append, List.count_nil]
    omega
  · rw [insert?_of_filled empty] at inserted
    split at inserted
    · cases inserted
    dsimp only at inserted
    rw [Option.some.injEq] at inserted
    have joined : (Text.join (lineEnd content)
        (withLine (lines (body content)) key value)).count '=' =
        content.count '=' + (newLine key value).count '=' := by
      have divided : (lines (body content)).flatten.count '=' =
          ((lines (body content)).takeWhile (staysBefore key)).flatten.count '=' +
            ((lines (body content)).dropWhile (staysBefore key)).flatten.count '=' := by
        rw [← List.count_append, ← List.flatten_append, List.takeWhile_append_dropWhile]
      rw [Text.count_join (not_mem_lineEnd content), withLine, ← count_body content,
        ← count_lines (body content), List.flatten_append, List.flatten_cons, List.count_append,
        List.count_append, divided]
      omega
    rw [← inserted]
    split
    · rw [List.count_append, joined]
      omega
    · rw [joined]
      omega

theorem length_lineEnd_pos (content : Text) : 0 < (lineEnd content).length := by
  unfold lineEnd
  split <;> decide

/-- Only a content that is empty becomes the new line alone. -/
theorem eq_nil_of_insert? {content key value : Text}
    (inserted : insert? content key value = some (newLine key value ++ ['\n'])) : content = [] := by
  by_cases empty : content = []
  · exact empty
  exfalso
  rw [insert?_of_filled empty] at inserted
  split at inserted
  · cases inserted
  dsimp only at inserted
  rw [Option.some.injEq] at inserted
  have ends := length_lineEnd_pos content
  have count := congrArg List.length inserted
  rw [List.length_append, List.length_singleton] at count
  -- Beside the new line there is another one, and a line end or a definition behind it.
  rw [withLine] at count
  cases after : (lines (body content)).dropWhile (staysBefore key) with
  | nil =>
    have before : (lines (body content)).takeWhile (staysBefore key) ≠ [] := by
      intro none
      have divided := List.takeWhile_append_dropWhile (p := staysBefore key)
        (l := lines (body content))
      rw [none, after] at divided
      exact lines_ne_nil _ divided.symm
    rw [after, if_pos (.inr rfl), Text.join_append _ before (by simp), Text.join] at count
    simp only [List.length_append] at count
    omega
  | cons line more =>
    have later := List.head?_dropWhile_not (staysBefore key) (lines (body content))
    rw [after] at later
    have filledLine : 0 < (Text.join (lineEnd content) (line :: more)).length := by
      have defining : line ≠ [] := by
        rintro rfl
        cases (staysBefore_nil key).symm.trans later
      have positive := List.length_pos_iff.mpr defining
      cases more with
      | nil => exact positive
      | cons next rest =>
        rw [Text.join, List.length_append, List.length_append]
        omega
    have inside := (Text.join_isSuffix (lineEnd content)
      ((lines (body content)).takeWhile (staysBefore key))
      (newLine key value :: line :: more)).length_le
    rw [Text.join, List.length_append, List.length_append] at inside
    rw [after] at count
    split at count
    · rw [List.length_append] at count
      omega
    · omega

end MessageKeys.Properties
