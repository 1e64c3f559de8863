import MessageKeys.Proofs.Source.LineText

/-!
Visible positions and their lines and columns.

A position is visible if it stands between two characters and not behind the text of its line, where
line ends do not belong to the text. Such positions and the places that a text has, a line and a
column of it each, belong to each other one to one, by `lineColumn` one way and by `offsetOf?` the
other (`lineColumn_bijective`). Every line starts behind a line end or at the beginning
(`exists_lineStart`), so that what is shown of a line stands there.
-/
namespace MessageKeys

open Text

/-- Where the text of a line stands, its line end apart. -/
def LineIndex.lineSpan? (index : LineIndex) (line : Nat) : Option Span :=
  index.starts[line - 1]?.map fun start => ⟨start, start + size (index.lineText line)⟩

/-- Between two characters, and not behind the text of its line. -/
structure IsVisible (source : Text) (offset : Nat) : Prop where
  between : ∃ before after, source = before ++ after ∧ size before = offset
  shown : ∃ span, (LineIndex.ofText source).lineSpan?
    ((LineIndex.ofText source).lineColumn offset).1 = some span ∧ offset ≤ span.stop

/-- A line of a text, and a column from the first character of its text to just behind the last. -/
structure IsPlace (source : Text) (line column : Nat) : Prop where
  line_pos : 1 ≤ line
  line_le : line ≤ source.count '\n' + 1
  column_pos : 1 ≤ column
  column_le : column ≤ ((LineIndex.ofText source).lineText line).length + 1

/-! ## Lines -/

/-- Every line of a text starts at its beginning or behind a line end. -/
theorem exists_lineStart {source : Text} {breaks : Nat} (enough : breaks ≤ source.count '\n') :
    ∃ before after, source = before ++ after ∧ before.count '\n' = breaks ∧ lastLine before = [] := by
  induction breaks with
  | zero => exact ⟨[], source, rfl, rfl, rfl⟩
  | succ fewer ih =>
    obtain ⟨before, after, rfl, count, _⟩ := ih (by omega)
    rw [List.count_append] at enough
    rcases firstLine_cases after with ⟨single, _⟩ | ⟨rest, ended⟩
    · rw [List.count_eq_zero.mpr single] at enough
      omega
    · refine ⟨before ++ firstLine after ++ ['\n'], rest, ?_, ?_, by simp [lastLine]⟩
      · rw [List.append_assoc, List.append_assoc, List.singleton_append, ← ended]
      · rw [List.count_append, List.count_append, count,
          List.count_eq_zero.mpr (not_mem_firstLine after)]
        rfl

theorem beforeLastLine_of_lastLine {text : Text} (fresh : lastLine text = []) :
    beforeLastLine text = text := by
  have parts := beforeLastLine_append_lastLine text
  rwa [fresh, List.append_nil] at parts

theorem size_starts (source : Text) :
    (LineIndex.ofText source).starts.size = source.count '\n' + 1 := length_lineStarts source

theorem lineSpan?_append (before after : Text) :
    (LineIndex.ofText (before ++ after)).lineSpan? (before.count '\n' + 1) =
      some ⟨size (beforeLastLine before), size (beforeLastLine before) +
        size (withoutLineEnd (lastLine before ++ firstLine after))⟩ := by
  rw [LineIndex.lineSpan?, Nat.add_sub_cancel, lineStart_append, Option.map_some, lineText_append]

/-- What the text of a line begins with stands at the start of the line and ends no line. -/
theorem exists_of_prefix_lineText {kept after : Text}
    (begins : kept <+: withoutLineEnd (firstLine after)) :
    '\n' ∉ kept ∧ ∃ rest, after = kept ++ rest := by
  obtain ⟨ends, whole, _⟩ := exists_withoutLineEnd (firstLine after)
  have first : kept <+: firstLine after := begins.trans ⟨ends, whole.symm⟩
  refine ⟨fun member => not_mem_firstLine after (first.subset member), ?_⟩
  obtain ⟨rest, shape⟩ := first.trans (List.takeWhile_prefix _)
  exact ⟨rest, shape.symm⟩

/-! ## Both ways -/

/-- A visible position is where its line and column lead. -/
theorem IsVisible.offsetOf?_lineColumn {source : Text} {offset : Nat}
    (visible : IsVisible source offset) {line column : Nat}
    (place : (LineIndex.ofText source).lineColumn offset = (line, column)) :
    IsPlace source line column ∧
      (LineIndex.ofText source).offsetOf? line column = some offset := by
  obtain ⟨⟨before, after, rfl, rfl⟩, span, stands, within⟩ := visible
  have parts := congrArg size (beforeLastLine_append_lastLine before)
  rw [size_append] at parts
  rw [lineColumn_append, Prod.mk.injEq] at place
  obtain ⟨rfl, rfl⟩ := place
  rw [lineColumn_append, lineSpan?_append, Option.some.injEq] at stands
  rw [← stands] at within
  dsimp only at within
  -- What stands in front of the position on its line is shown as a whole.
  obtain ⟨ends, whole, _⟩ := exists_withoutLineEnd (lastLine before ++ firstLine after)
  obtain ⟨between, shown, _⟩ := append_of_size_le whole (by omega)
  constructor
  · constructor
    · omega
    · rw [List.count_append]
      omega
    · omega
    · rw [lineText_append, shown, List.length_append]
      omega
  · rw [offsetOf?_append, Nat.add_sub_cancel, shown, List.take_left, parts]

/-- A place leads to a visible position, and that has its line and column. -/
theorem IsPlace.exists_offset {source : Text} {line column : Nat}
    (place : IsPlace source line column) :
    ∃ offset, IsVisible source offset ∧
      (LineIndex.ofText source).offsetOf? line column = some offset ∧
      (LineIndex.ofText source).lineColumn offset = (line, column) := by
  obtain ⟨line_pos, line_le, column_pos, column_le⟩ := place
  obtain ⟨before, after, rfl, count, fresh⟩ :=
    @exists_lineStart source (line - 1) (by omega)
  obtain rfl : line = before.count '\n' + 1 := by omega
  have text := lineText_append before after
  have span := lineSpan?_append before after
  have position := offsetOf?_append before after column
  rw [fresh, List.nil_append] at text span position
  rw [beforeLastLine_of_lastLine fresh] at span position
  rw [text] at column_le
  generalize shape : (withoutLineEnd (firstLine after)).take (column - 1) = kept at position
  have begins : kept <+: withoutLineEnd (firstLine after) := by
    rw [← shape]
    exact List.take_prefix _ _
  have length : kept.length = column - 1 := by
    rw [← shape, List.length_take]
    omega
  obtain ⟨single, rest, behind⟩ := exists_of_prefix_lineText begins
  have back : (LineIndex.ofText (before ++ after)).lineColumn (size before + size kept) =
      (before.count '\n' + 1, column) := by
    have moved := lineColumn_append (before ++ kept) rest
    rw [List.append_assoc, ← behind, size_append, List.count_append,
      List.count_eq_zero.mpr single, lastLine_append single, fresh, List.nil_append, length] at moved
    rw [moved]
    simp only [Nat.add_zero, Prod.mk.injEq, true_and]
    omega
  refine ⟨size before + size kept, ⟨?_, ?_⟩, position, back⟩
  · exact ⟨before ++ kept, rest, by rw [List.append_assoc, ← behind], size_append _ _⟩
  · rw [back, span]
    obtain ⟨more, longer⟩ := begins
    refine ⟨_, rfl, ?_⟩
    rw [← longer, size_append]
    dsimp only
    omega

/-- The text of a line stands at its span, and columns behind it lead to the end of the span. -/
theorem exists_lineSpan {source : Text} {line : Nat} (line_pos : 1 ≤ line)
    (line_le : line ≤ source.count '\n' + 1) :
    ∃ span, (LineIndex.ofText source).lineSpan? line = some span ∧
      slice? source span.start span.stop = some ((LineIndex.ofText source).lineText line) ∧
      ∀ column, ((LineIndex.ofText source).lineText line).length + 1 < column →
        (LineIndex.ofText source).offsetOf? line column = some span.stop := by
  obtain ⟨before, after, rfl, count, fresh⟩ := @exists_lineStart source (line - 1) (by omega)
  obtain rfl : line = before.count '\n' + 1 := by omega
  refine ⟨_, lineSpan?_append before after, ?_, ?_⟩
  · obtain ⟨_, rest, behind⟩ := exists_of_prefix_lineText (List.prefix_refl _)
    have stands : Stands (withoutLineEnd (firstLine after)) (size before) (before ++ after) :=
      ⟨before, rest, by rw [List.append_assoc, ← behind], rfl⟩
    rw [lineText_append, fresh, List.nil_append, beforeLastLine_of_lastLine fresh]
    exact stands.slice?
  · intro column past
    rw [lineText_append] at past
    rw [offsetOf?_append, List.take_of_length_le (by omega)]

theorem offsetOf?_eq_none {source : Text} {line : Nat}
    (outside : line = 0 ∨ source.count '\n' + 1 < line) (column : Nat) :
    (LineIndex.ofText source).offsetOf? line column = none := by
  rcases outside with zero | past
  · rw [LineIndex.offsetOf?, if_pos zero]
  · have beyond : (LineIndex.ofText source).starts.size ≤ line - 1 := by
      rw [size_starts]
      omega
    rw [LineIndex.offsetOf?, if_neg (by omega), Array.getElem?_eq_none beyond, Option.map_none]

/-- Visible positions and places of a text belong to each other one to one. Columns behind a line's
text count as its end, and lines that a text does not have lead nowhere. -/
theorem lineColumn_bijective (source : Text) :
    (∀ offset line column, IsVisible source offset →
      (LineIndex.ofText source).lineColumn offset = (line, column) →
      IsPlace source line column ∧
        (LineIndex.ofText source).offsetOf? line column = some offset) ∧
    (∀ line column, IsPlace source line column →
      ∃ offset, IsVisible source offset ∧
        (LineIndex.ofText source).offsetOf? line column = some offset ∧
        (LineIndex.ofText source).lineColumn offset = (line, column)) ∧
    (∀ line, 1 ≤ line → line ≤ source.count '\n' + 1 →
      ∃ span, (LineIndex.ofText source).lineSpan? line = some span ∧
        slice? source span.start span.stop = some ((LineIndex.ofText source).lineText line) ∧
        ∀ column, ((LineIndex.ofText source).lineText line).length + 1 < column →
          (LineIndex.ofText source).offsetOf? line column = some span.stop) ∧
    ∀ line column, line = 0 ∨ source.count '\n' + 1 < line →
      (LineIndex.ofText source).offsetOf? line column = none :=
  ⟨fun _ _ _ visible place => visible.offsetOf?_lineColumn place,
    fun _ _ place => place.exists_offset, fun _ => exists_lineSpan,
    fun _ column outside => offsetOf?_eq_none outside column⟩

end MessageKeys
