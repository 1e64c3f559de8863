import MessageKeys.Proofs.Source.LineColumn

/-!
The text of lines, and the way back from line and column to a position.

The line of a position is what stands in front of the position on its line and what follows up to
the end of the line, without the characters that end it (`lineText_append`). The way back from line
and column ends at the position itself, unless the position stands among the characters that end its
line: then it ends in front of them (`offsetOf?_lineColumn`).
-/
namespace MessageKeys

open Text

/-! ## The text of a line -/

/-- A character that ends a line. -/
def isLineEnd (c : Char) : Bool := c == '\n' || c == '\r'

/-- A text without the line ends at its end. -/
def withoutLineEnd (text : Text) : Text := (text.reverse.dropWhile isLineEnd).reverse

/-- What stands on the first line of a text. -/
def firstLine (text : Text) : Text := text.takeWhile (· != '\n')

theorem firstLine_cases (text : Text) :
    ('\n' ∉ text ∧ firstLine text = text) ∨
      ∃ rest, text = firstLine text ++ '\n' :: rest := by
  induction text with
  | nil => exact .inl ⟨List.not_mem_nil, rfl⟩
  | cons c more ih =>
    by_cases newline : c = '\n'
    · exact .inr ⟨more, by simp [firstLine, newline]⟩
    · have goesOn : firstLine (c :: more) = c :: firstLine more := by
        simp [firstLine, newline]
      rw [goesOn]
      rcases ih with ⟨absent, same⟩ | ⟨rest, ended⟩
      · exact .inl ⟨by simp [Ne.symm newline, absent], by rw [same]⟩
      · exact .inr ⟨rest, by rw [List.cons_append, ← ended]⟩

theorem not_mem_firstLine (text : Text) : '\n' ∉ firstLine text := by
  intro member
  have plain := List.all_eq_true.mp (List.all_takeWhile (p := (· != '\n')) (l := text))
  exact absurd (plain '\n' member) (by decide)

/-- The line behind the first one starts behind its line end. -/
theorem head?_lineBreaks {text : Text} (single : '\n' ∉ text) (offset : Nat) (rest : Text) :
    (lineBreaks offset (text ++ '\n' :: rest)).head? = some (offset + size text + 1) := by
  rw [lineBreaks_append, lineBreaks_eq_nil single, List.nil_append, lineBreaks, if_pos rfl,
    List.head?_cons]

theorem withoutLineEnd_append_newline (text : Text) :
    withoutLineEnd (text ++ ['\n']) = withoutLineEnd text := by
  simp [withoutLineEnd, isLineEnd]

/-- Nothing but line ends is left out. -/
theorem exists_withoutLineEnd (text : Text) :
    ∃ ends, text = withoutLineEnd text ++ ends ∧ ∀ c ∈ ends, isLineEnd c = true := by
  refine ⟨(text.reverse.takeWhile isLineEnd).reverse, ?_, ?_⟩
  · rw [withoutLineEnd, ← List.reverse_append, List.takeWhile_append_dropWhile,
      List.reverse_reverse]
  · intro c member
    exact List.all_eq_true.mp List.all_takeWhile c (List.mem_reverse.mp member)

/-- The line of a position between two parts of a text. -/
theorem lineText_append (before after : Text) :
    (LineIndex.ofText (before ++ after)).lineText (before.count '\n' + 1) =
      withoutLineEnd (lastLine before ++ firstLine after) := by
  have count := length_lineStarts before
  have parts := beforeLastLine_append_lastLine before
  have sizes := congrArg size parts
  rw [size_append] at sizes
  have source : (LineIndex.ofText (before ++ after)).source = before ++ after := rfl
  -- The next line starts at the first line start past the position.
  have next : (LineIndex.ofText (before ++ after)).starts[before.count '\n' + 1]? =
      (lineBreaks (size before) after).head? := by
    rw [← Array.getElem?_toList, toList_starts_append, List.getElem?_append_right (by omega), count,
      Nat.sub_self, List.head?_eq_getElem?]
  have shown : ∀ line, Stands line (size (beforeLastLine before)) (before ++ after) →
      (lineBreaks (size before) after).head?.getD (size (before ++ after)) =
        size (beforeLastLine before) + size line →
      (LineIndex.ofText (before ++ after)).lineText (before.count '\n' + 1) =
        withoutLineEnd line := by
    intro line stands stop
    simp only [LineIndex.lineText, Nat.add_sub_cancel, lineStart_append before after, next, source,
      stop, stands.slice?, Option.getD_some]
    rfl
  rcases firstLine_cases after with ⟨single, whole⟩ | ⟨rest, ended⟩
  · rw [whole]
    refine shown _ ⟨beforeLastLine before, [], ?_, rfl⟩ ?_
    · rw [List.append_nil, ← List.append_assoc, parts]
    · rw [lineBreaks_eq_nil single, List.head?_nil, Option.getD_none, size_append, size_append]
      omega
  · rw [← withoutLineEnd_append_newline]
    refine shown _ ⟨beforeLastLine before, rest, ?_, rfl⟩ ?_
    · rw [← List.append_assoc, ← List.append_assoc, parts, List.append_assoc, List.append_assoc,
        List.singleton_append, ← ended]
    · have newline : size ['\n'] = 1 := rfl
      have starts := head?_lineBreaks (not_mem_firstLine after) (size before) rest
      rw [← ended] at starts
      rw [starts, Option.getD_some, size_append, size_append, newline]
      omega

/-! ## Back to the position -/

/-- The characters in front of a place of a line that its text still has, where `rest` follows the
place: all of them, or those in front of the line end if `rest` belongs to it too. -/
theorem exists_take_withoutLineEnd (front rest : Text) :
    ∃ ends, front = (withoutLineEnd (front ++ rest)).take front.length ++ ends ∧
      (∀ c ∈ ends, isLineEnd c = true) ∧ (ends = [] ∨ ∀ c ∈ rest, isLineEnd c = true) := by
  obtain ⟨ends, whole, lineEnds⟩ := exists_withoutLineEnd (front ++ rest)
  rcases List.append_eq_append_iff.mp whole with ⟨more, longer, _⟩ | ⟨more, shorter, tail⟩
  · refine ⟨[], ?_, by simp, .inl rfl⟩
    rw [longer, List.take_left, List.append_nil]
  · refine ⟨more, ?_, ?_, .inr ?_⟩
    · have fewer := congrArg List.length shorter
      rw [List.length_append] at fewer
      rw [List.take_of_length_le (by omega), ← shorter]
    · intro c member
      exact lineEnds c (by rw [tail]; exact List.mem_append_left _ member)
    · intro c member
      exact lineEnds c (by rw [tail]; exact List.mem_append_right _ member)

/-- The position of a column of the line that a position between two parts of a text stands on. -/
theorem offsetOf?_append (before after : Text) (column : Nat) :
    (LineIndex.ofText (before ++ after)).offsetOf? (before.count '\n' + 1) column =
      some (size (beforeLastLine before) +
        size ((withoutLineEnd (lastLine before ++ firstLine after)).take (column - 1))) := by
  rw [LineIndex.offsetOf?, if_neg (Nat.succ_ne_zero _), Nat.add_sub_cancel, lineStart_append,
    Option.map_some, lineText_append]

/-- The way from a position to its line and column and back leads to the position, or in front of
the line ends that it stands behind, if it stands among those of its line. -/
theorem offsetOf?_lineColumn (before after : Text) :
    ∃ kept ends, before = kept ++ ends ∧ (∀ c ∈ ends, isLineEnd c = true) ∧
      (ends = [] ∨ ∀ c ∈ firstLine after, isLineEnd c = true) ∧
      ∀ line column,
        (LineIndex.ofText (before ++ after)).lineColumn (size before) = (line, column) →
        (LineIndex.ofText (before ++ after)).offsetOf? line column = some (size kept) := by
  obtain ⟨ends, cut, lineEnds, atEnd⟩ :=
    exists_take_withoutLineEnd (lastLine before) (firstLine after)
  refine ⟨beforeLastLine before ++ (withoutLineEnd (lastLine before ++ firstLine after)).take
    (lastLine before).length, ends, ?_, lineEnds, atEnd, ?_⟩
  · rw [List.append_assoc, ← cut, beforeLastLine_append_lastLine]
  · intro line column place
    rw [lineColumn_append, Prod.mk.injEq] at place
    rw [← place.1, ← place.2, offsetOf?_append, Nat.add_sub_cancel, size_append]

end MessageKeys
