import MessageKeys.Proofs.Source.Visible

/-!
Lines by bisection, by search and by counting.

A search of the table of line starts for a position ends where the table holds it, or between the
entries that come before it and those that come after it. In the first case the entry itself starts
the line and is counted, in the second the entries before it are; either way the count is the one
that bisection finds (`lineOf_eq_lineTold`), and one more than the number of line ends in front of
the position. So the line of a position is always one of the table, wherever the position is
(`lineOf_within`), and the column can be counted from its start (`lineColumn?_eq`).
-/
namespace MessageKeys

open Text

/-! ## Searching the line starts -/

/-- Where an increasing table holds a number, or else where the number would have to stand. -/
def place (table : List Nat) (number : Nat) : Except Nat Nat :=
  let position := (table.takeWhile (· < number)).length
  if (table.dropWhile (· < number)).head? = some number then .ok position else .error position

/-- Where a search of an increasing table for a number ends: at a position that holds the number, or
at the one where it would have to be put in. -/
inductive SearchEnds (table : List Nat) (number : Nat) : Except Nat Nat → Prop where
  | found {position : Nat} (here : table[position]? = some number) :
    SearchEnds table number (.ok position)
  | missing {position : Nat} (inside : position ≤ table.length)
    (before : ∀ entry ∈ table.take position, entry < number)
    (behind : ∀ entry ∈ table.drop position, number < entry) :
    SearchEnds table number (.error position)

/-- The line that the end of a search of the line starts tells. -/
def lineTold : Except Nat Nat → Nat
  | .ok position => position + 1
  | .error position => position

/-- What is below the number comes first in the table, and nothing behind that is below it. -/
theorem searchEnds_place {table : List Nat} (increasing : table.Pairwise (· < ·)) (number : Nat) :
    SearchEnds table number (place table number) := by
  have shape := (List.takeWhile_append_dropWhile (p := (· < number)) (l := table)).symm
  have before : ∀ entry ∈ table.takeWhile (· < number), entry < number := by
    intro entry member
    simpa using List.all_eq_true.mp List.all_takeWhile entry member
  have reached := List.head?_dropWhile_not (· < number) table
  unfold place
  generalize table.takeWhile (· < number) = front at shape before ⊢
  generalize table.dropWhile (· < number) = back at shape reached ⊢
  subst shape
  dsimp only
  split
  · next here =>
    refine .found ?_
    rw [List.getElem?_append_right (Nat.le_refl _), Nat.sub_self, ← List.head?_eq_getElem?, here]
  · next absent =>
    refine .missing (by simp) (by rwa [List.take_left]) ?_
    rw [List.drop_left]
    -- The first entry that is not below the number is above it, and the others are above that one.
    cases back with
    | nil => simp
    | cons first rest =>
      have least : number < first := by
        have notBelow : number ≤ first := by simpa using reached
        have other : first ≠ number := by simpa using absent
        omega
      have later := (List.pairwise_cons.mp (List.pairwise_append.mp increasing).2.1).1
      intro entry member
      rcases List.mem_cons.mp member with rfl | isLater
      · exact least
      · exact Nat.lt_trans least (later entry isLater)

/-- Bisection counts the entries up to a number, however a search for the number ends. -/
theorem countUpTo_eq_lineTold {table : Array Nat} {number : Nat} {answer : Except Nat Nat}
    (increasing : table.toList.Pairwise (· < ·)) (ends : SearchEnds table.toList number answer) :
    countUpTo table number 0 table.size = lineTold answer := by
  cases ends with
  | @found position here =>
    obtain ⟨inside, entry⟩ := List.getElem?_eq_some_iff.mp here
    -- The entry that holds the number comes last of those that are counted.
    have shape := (List.take_append_drop position table.toList).symm
    rw [List.drop_eq_getElem_cons inside, entry, List.append_cons] at shape
    rw [shape] at increasing
    obtain ⟨front, _, across⟩ := List.pairwise_append.mp increasing
    have upTo : ∀ entry ∈ table.toList.take position ++ [number], entry ≤ number := by
      intro entry member
      rcases List.mem_append.mp member with early | last
      · exact Nat.le_of_lt ((List.pairwise_append.mp front).2.2 entry early number (by simp))
      · exact Nat.le_of_eq (List.mem_singleton.mp last)
    have past : ∀ entry ∈ table.toList.drop (position + 1), number < entry :=
      across number (by simp)
    rw [countUpTo_whole shape upTo past, List.length_append,
      List.length_take_of_le (Nat.le_of_lt inside), List.length_singleton, lineTold]
  | @missing position inside before behind =>
    have shape := (List.take_append_drop position table.toList).symm
    have upTo : ∀ entry ∈ table.toList.take position, entry ≤ number :=
      fun entry early => Nat.le_of_lt (before entry early)
    rw [countUpTo_whole shape upTo behind, List.length_take_of_le inside, lineTold]

theorem lineOf_eq_lineTold {source : Text} {offset : Nat} {answer : Except Nat Nat}
    (ends : SearchEnds (LineIndex.ofText source).starts.toList offset answer) :
    (LineIndex.ofText source).lineOf offset = lineTold answer :=
  countUpTo_eq_lineTold (pairwise_starts source) ends

/-! ## The line is one of the table -/

theorem lineOf_within (source : Text) (offset : Nat) :
    1 ≤ (LineIndex.ofText source).lineOf offset ∧
      (LineIndex.ofText source).lineOf offset ≤ (LineIndex.ofText source).starts.size := by
  have fewer := (List.take_sublist offset (bytes source)).count_le lineFeed
  have all : (bytes source).count lineFeed = source.count '\n' := count_bytes rfl source
  rw [lineOf_eq_count, size_starts]
  omega

/-- Line and column of a position, if the table has an entry for the line. -/
def LineIndex.lineColumn? (index : LineIndex) (offset : Nat) : Option (Nat × Nat) :=
  let offset := min offset (size index.source)
  let line := index.lineOf offset
  if line = 0 then none
  else index.starts[line - 1]?.map fun start =>
    (line, ((slice? index.source start offset).map List.length).getD 0 + 1)

/-- The table has an entry for the line of every position. -/
theorem lineColumn?_eq (source : Text) (offset : Nat) :
    (LineIndex.ofText source).lineColumn? offset =
      some ((LineIndex.ofText source).lineColumn offset) := by
  obtain ⟨first, last⟩ := lineOf_within source (min offset (size source))
  have inside : (LineIndex.ofText source).lineOf (min offset (size source)) - 1 <
      (LineIndex.ofText source).starts.size := by omega
  have same : (LineIndex.ofText source).source = source := rfl
  simp only [LineIndex.lineColumn?, LineIndex.lineColumn, same, if_neg (Nat.ne_of_gt first),
    Array.getElem?_eq_getElem inside, Option.map_some]

/-- Bisection of the line starts counts line ends. The table holds zero and the positions behind
the line ends, so that it increases. For every position, also within a character or behind the end
of the text, its line is one more than the number of line ends in front of it, and the line that a
search of the table tells, whether or not the table holds the position. The line is one of the
table, so that its start is there for the column. -/
theorem bisection_counts_lines (source : Text) :
    let index := LineIndex.ofText source
    index.starts.toList = 0 :: (bytes source).idxsOf lineFeed 1 ∧
    index.starts.toList.Pairwise (· < ·) ∧
    ∀ offset,
      index.lineOf offset = 1 + ((bytes source).take offset).count lineFeed ∧
      (∃ answer, SearchEnds index.starts.toList offset answer) ∧
      (∀ answer, SearchEnds index.starts.toList offset answer →
        index.lineOf offset = lineTold answer) ∧
      1 ≤ index.lineOf offset ∧ index.lineOf offset ≤ index.starts.size ∧
      index.lineColumn? offset = some (index.lineColumn offset) := by
  intro index
  refine ⟨toList_starts source, pairwise_starts source, fun offset => ?_⟩
  obtain ⟨first, last⟩ := lineOf_within source offset
  exact ⟨lineOf_eq_count source offset, ⟨_, searchEnds_place (pairwise_starts source) offset⟩,
    fun _ ends => lineOf_eq_lineTold ends, first, last, lineColumn?_eq source offset⟩

/-- Positions at the start of a line, within a character and behind the end. -/
theorem bisection_counts_lines_threeLines :
    let source := "a\né\r\n".toList
    let index := LineIndex.ofText source
    index.starts.toList = [0, 2, 6] ∧
      SearchEnds [0, 2, 6] 2 (.ok 1) ∧ index.lineOf 2 = 2 ∧
      SearchEnds [0, 2, 6] 3 (.error 2) ∧ index.lineOf 3 = 2 ∧
      index.lineColumn? 3 = some (2, 1) ∧
      index.lineOf 100 = 3 ∧ index.lineColumn? 100 = some (3, 1) := by
  intro source index
  obtain ⟨_, _, counts⟩ := bisection_counts_lines source
  have table : index.starts.toList = [0, 2, 6] := by decide
  have held : SearchEnds [0, 2, 6] 2 (.ok 1) := .found rfl
  have between : SearchEnds [0, 2, 6] 3 (.error 2) :=
    .missing (by decide) (by decide) (by decide)
  obtain ⟨_, _, atStart, _⟩ := counts 2
  obtain ⟨_, _, within, _, _, column⟩ := counts 3
  obtain ⟨behind, _, _, _, _, last⟩ := counts 100
  refine ⟨table, held, atStart (.ok 1) (table ▸ held), between,
    within (.error 2) (table ▸ between), ?_, behind, ?_⟩
  · exact column.trans (by decide +kernel)
  · exact last.trans (by decide +kernel)

end MessageKeys
