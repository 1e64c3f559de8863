import Mathlib.Data.List.Basic
import MessageKeys.Proofs.Text.Bytes
import MessageKeys.Source.LineIndex

/-!
Lines and columns of positions between characters.

The lines of a text start at its beginning and behind every byte that ends a line
(`toList_starts`). The starts that belong to the bytes in front of a position are all up to it, and
those that belong to the bytes behind it are all past it; so bisection finds how many lines the
bytes in front have (`countUpTo_eq`, `lineOf_eq_count`). Hence line and column are the number of
line ends in front of the position and the length of what stands in front of it on its line
(`lineColumn_append`), and no two positions have the same (`lineColumn_inj`).
-/
namespace MessageKeys

open Text

/-! ## Line starts -/

/-- The byte that ends a line. -/
def lineFeed : UInt8 := '\n'.toUInt8

/-- A line starts behind each byte that ends one. -/
theorem lineBreaks_eq_idxsOf (offset : Nat) (text : Text) :
    lineBreaks offset text = (bytes text).idxsOf lineFeed (offset + 1) := by
  induction text generalizing offset with
  | nil => rfl
  | cons c rest ih =>
    have behind : offset + 1 + (String.utf8EncodeChar c).length = offset + c.utf8Size + 1 := by
      rw [String.length_utf8EncodeChar]
      omega
    rw [bytes_cons, List.idxsOf_append, behind, ← ih, lineBreaks]
    by_cases ends : c = '\n'
    · subst ends
      rfl
    · have plain : (String.utf8EncodeChar c).idxsOf lineFeed (offset + 1) = [] := by
        rw [List.idxsOf_eq_nil_iff]
        intro byte member
        rw [beq_eq_false_iff_ne]
        rintro rfl
        exact ends (eq_of_mem_utf8EncodeChar rfl member)
      rw [if_neg ends, plain, List.nil_append]

theorem toList_starts (source : Text) :
    (LineIndex.ofText source).starts.toList = 0 :: (bytes source).idxsOf lineFeed 1 :=
  congrArg (0 :: ·) (lineBreaks_eq_idxsOf 0 source)

theorem pairwise_starts (source : Text) :
    (LineIndex.ofText source).starts.toList.Pairwise (· < ·) := by
  rw [toList_starts]
  exact .cons (fun entry later => List.ge_of_mem_idxsOf entry later) List.pairwise_idxsOf

theorem lineBreaks_append (offset : Nat) (a b : Text) :
    lineBreaks offset (a ++ b) = lineBreaks offset a ++ lineBreaks (offset + size a) b := by
  rw [lineBreaks_eq_idxsOf, lineBreaks_eq_idxsOf, lineBreaks_eq_idxsOf, bytes_append,
    List.idxsOf_append, length_bytes, Nat.add_right_comm]

theorem length_lineBreaks (offset : Nat) (text : Text) :
    (lineBreaks offset text).length = text.count '\n' := by
  rw [lineBreaks_eq_idxsOf, List.length_idxsOf]
  exact count_bytes rfl text

theorem lineBreaks_eq_nil {text : Text} (single : '\n' ∉ text) (offset : Nat) :
    lineBreaks offset text = [] := by
  rw [← List.length_eq_zero_iff, length_lineBreaks, List.count_eq_zero]
  exact single

/-! ## The line of a position -/

/-- Bisection counts the entries up to a position, if all the others come after them. -/
theorem countUpTo_eq {table : Array Nat} {front back : List Nat} {offset : Nat}
    (shape : table.toList = front ++ back) (upTo : ∀ entry ∈ front, entry ≤ offset)
    (past : ∀ entry ∈ back, offset < entry) {low high : Nat} (above : low ≤ front.length)
    (below : front.length ≤ high) (inside : high ≤ table.size) :
    countUpTo table offset low high = front.length := by
  have entryAt : ∀ position : Nat, table[position]? = (front ++ back)[position]? := by
    intro position
    rw [← shape, Array.getElem?_toList]
  fun_induction countUpTo table offset low high with
  | case1 low high less middle missing =>
    have bound : table.size ≤ middle := by simpa using missing
    omega
  | case2 low high less middle entry found small ih =>
    apply ih _ below inside
    rw [entryAt] at found
    by_cases early : middle < front.length
    · omega
    · rw [List.getElem?_append_right (by omega)] at found
      have late := past entry (List.mem_of_getElem? found)
      omega
  | case3 low high less middle entry found large ih =>
    apply ih above _ (by omega)
    rw [entryAt] at found
    by_cases early : middle < front.length
    · rw [List.getElem?_append_left early] at found
      have small := upTo entry (List.mem_of_getElem? found)
      omega
    · omega
  | case4 low high done => omega

theorem countUpTo_whole {table : Array Nat} {front back : List Nat} {offset : Nat}
    (shape : table.toList = front ++ back) (upTo : ∀ entry ∈ front, entry ≤ offset)
    (past : ∀ entry ∈ back, offset < entry) :
    countUpTo table offset 0 table.size = front.length := by
  have total := congrArg List.length shape
  rw [Array.length_toList, List.length_append] at total
  exact countUpTo_eq shape upTo past (Nat.zero_le _) (by omega) (Nat.le_refl _)

/-- The line of a position is one more than the number of line ends in front of it. -/
theorem lineOf_eq_count (source : Text) (offset : Nat) :
    (LineIndex.ofText source).lineOf offset =
      1 + ((bytes source).take offset).count lineFeed := by
  have shape : (LineIndex.ofText source).starts.toList =
      (0 :: ((bytes source).take offset).idxsOf lineFeed 1) ++
        ((bytes source).drop offset).idxsOf lineFeed (1 + ((bytes source).take offset).length) := by
    rw [toList_starts, List.cons_append, ← List.idxsOf_append, List.take_append_drop]
  have upTo : ∀ entry ∈ 0 :: ((bytes source).take offset).idxsOf lineFeed 1, entry ≤ offset := by
    intro entry member
    rcases List.mem_cons.mp member with rfl | later
    · exact Nat.zero_le offset
    · have below := List.lt_add_of_mem_idxsOf entry later
      rw [List.length_take] at below
      omega
  have past : ∀ entry ∈ ((bytes source).drop offset).idxsOf lineFeed
      (1 + ((bytes source).take offset).length), offset < entry := by
    -- Behind the end of the text there are no bytes, and so no entries.
    intro entry member
    have above := List.ge_of_mem_idxsOf entry member
    have below := List.lt_add_of_mem_idxsOf entry member
    rw [List.length_take] at above below
    rw [List.length_drop] at below
    omega
  rw [LineIndex.lineOf, countUpTo_whole shape upTo past, List.length_cons, List.length_idxsOf,
    Nat.add_comm]

theorem lineOf_append (before after : Text) :
    (LineIndex.ofText (before ++ after)).lineOf (size before) = before.count '\n' + 1 := by
  have front : (bytes (before ++ after)).take (size before) = bytes before := by
    rw [bytes_append, ← length_bytes before, List.take_left]
  have count : (bytes before).count lineFeed = before.count '\n' := count_bytes rfl before
  rw [lineOf_eq_count, front, count, Nat.add_comm]

/-! ## The start of the line -/

/-- What stands on the last line of a text. -/
def lastLine (text : Text) : Text := (text.reverse.takeWhile (· != '\n')).reverse

/-- What stands in front of the last line of a text. -/
def beforeLastLine (text : Text) : Text := (text.reverse.dropWhile (· != '\n')).reverse

theorem beforeLastLine_append_lastLine (text : Text) :
    beforeLastLine text ++ lastLine text = text := by
  rw [beforeLastLine, lastLine, ← List.reverse_append, List.takeWhile_append_dropWhile,
    List.reverse_reverse]

theorem not_mem_lastLine (text : Text) : '\n' ∉ lastLine text := by
  intro member
  have plain := List.all_eq_true.mp (List.all_takeWhile (p := (· != '\n')) (l := text.reverse))
  exact absurd (plain '\n' (by simpa [lastLine] using member)) (by decide)

theorem lastLine_append {more : Text} (single : '\n' ∉ more) (text : Text) :
    lastLine (text ++ more) = lastLine text ++ more := by
  have plain : ∀ c ∈ more.reverse, (c != '\n') = true := by
    intro c member
    rw [bne_iff_ne]
    rintro rfl
    exact single (List.mem_reverse.mp member)
  rw [lastLine, List.reverse_append, List.takeWhile_append_of_pos plain, List.reverse_append,
    List.reverse_reverse, lastLine]

/-- What stands in front of the last line is nothing, or it ends a line. -/
theorem beforeLastLine_cases (text : Text) :
    beforeLastLine text = [] ∨ ∃ front, beforeLastLine text = front ++ ['\n'] := by
  unfold beforeLastLine
  cases dropped : text.reverse.dropWhile (· != '\n') with
  | nil => exact .inl rfl
  | cons c more =>
    have stopped := List.head?_dropWhile_not (· != '\n') text.reverse
    rw [dropped] at stopped
    have newline : c = '\n' := by simpa using stopped
    exact .inr ⟨more.reverse, by rw [newline, List.reverse_cons]⟩

/-- The last line start of a text is where its last line stands. -/
theorem getLast?_lineStarts (text : Text) :
    (0 :: lineBreaks 0 text).getLast? = some (size (beforeLastLine text)) := by
  have none := lineBreaks_eq_nil (not_mem_lastLine text) (0 + size (beforeLastLine text))
  have shape := lineBreaks_append 0 (beforeLastLine text) (lastLine text)
  rw [beforeLastLine_append_lastLine, none, List.append_nil] at shape
  rw [shape]
  rcases beforeLastLine_cases text with empty | ⟨front, ended⟩
  · rw [empty]
    rfl
  · have last : lineBreaks (0 + size front) ['\n'] = [size (front ++ ['\n'])] := by
      rw [size_append, Nat.zero_add]
      rfl
    rw [ended, lineBreaks_append, last, ← List.cons_append, List.getLast?_concat]

/-- The line starts of a text: those up to a position, and those past it. -/
theorem toList_starts_append (before after : Text) :
    (LineIndex.ofText (before ++ after)).starts.toList =
      (0 :: lineBreaks 0 before) ++ lineBreaks (size before) after := by
  have divided := lineBreaks_append 0 before after
  rw [Nat.zero_add] at divided
  simp [LineIndex.ofText, divided]

theorem length_lineStarts (text : Text) :
    (0 :: lineBreaks 0 text).length = text.count '\n' + 1 := by
  rw [List.length_cons, length_lineBreaks]

/-- The line of a position starts where the text in front of the position has its last line. -/
theorem lineStart_append (before after : Text) :
    (LineIndex.ofText (before ++ after)).starts[before.count '\n']? =
      some (size (beforeLastLine before)) := by
  have count := length_lineStarts before
  have last := getLast?_lineStarts before
  rw [List.getLast?_eq_getElem?, count, Nat.add_sub_cancel] at last
  rw [← Array.getElem?_toList, toList_starts_append, List.getElem?_append_left (by omega), last]

/-- Line and column of a position between two parts of a text. -/
theorem lineColumn_append (before after : Text) :
    (LineIndex.ofText (before ++ after)).lineColumn (size before) =
      (before.count '\n' + 1, (lastLine before).length + 1) := by
  have cut : Text.slice? (before ++ after) (size (beforeLastLine before)) (size before) =
      some (lastLine before) := by
    have parts := beforeLastLine_append_lastLine before
    have stands : Stands (lastLine before) (size (beforeLastLine before)) (before ++ after) :=
      ⟨beforeLastLine before, after, by rw [parts], rfl⟩
    have sizes := congrArg size parts
    rw [size_append] at sizes
    rw [← stands.slice?, sizes]
  have bounded : min (size before) (size (before ++ after)) = size before := by
    rw [size_append]
    omega
  have source : (LineIndex.ofText (before ++ after)).source = before ++ after := rfl
  simp only [LineIndex.lineColumn, source, bounded, lineOf_append before after, Nat.add_sub_cancel,
    lineStart_append before after, cut, Option.map_some, Option.getD_some]

/-- A longer part of a text ends on a later line or in a later column. -/
theorem eq_nil_of_lineColumn {text more : Text}
    (lines : (text ++ more).count '\n' = text.count '\n')
    (columns : (lastLine (text ++ more)).length = (lastLine text).length) : more = [] := by
  have single : '\n' ∉ more := by
    rw [List.count_append] at lines
    rw [← List.count_eq_zero]
    omega
  rw [lastLine_append single, List.length_append] at columns
  rw [← List.length_eq_zero_iff]
  omega

/-- Positions between characters with the same line and column are the same. -/
theorem lineColumn_inj {source a b c d : Text} (here : source = a ++ b) (there : source = c ++ d)
    (same : (LineIndex.ofText source).lineColumn (size a) =
      (LineIndex.ofText source).lineColumn (size c)) : a = c := by
  have first := lineColumn_append a b
  have second := lineColumn_append c d
  rw [← here] at first
  rw [← there] at second
  rw [first, second, Prod.mk.injEq, Nat.add_right_cancel_iff, Nat.add_right_cancel_iff] at same
  obtain ⟨lines, columns⟩ := same
  have startsHere : a <+: source := ⟨b, here.symm⟩
  have startsThere : c <+: source := ⟨d, there.symm⟩
  rcases List.prefix_or_prefix_of_prefix startsHere startsThere with ⟨more, longer⟩ | ⟨more, longer⟩
  · rw [← longer] at lines columns
    have none := eq_nil_of_lineColumn lines.symm columns.symm
    rw [none, List.append_nil] at longer
    exact longer
  · rw [← longer] at lines columns
    have none := eq_nil_of_lineColumn lines columns
    rw [none, List.append_nil] at longer
    exact longer.symm

end MessageKeys
