import MessageKeys.Call.ArgumentList
import MessageKeys.Proofs.Source.LineCount

/-!
Positions as 64-bit words.

Positions are computed with words, and a sum that no word holds makes the computation fail, while a
text and its places are described by natural numbers. Here everything that is computed from a
position is written once for numbers that go up to a largest one or on and on (`Arithmetic`), with a
sum or a difference wherever a position is moved. Where all sums up to a limit are there (`Exact`),
lines, columns, line texts and positions are those of natural numbers, as long as the limit is above
the size of the text (`agreesAt_of_exact`); words go up to the largest of them. The one sum that can
exceed it is the position behind the opening parenthesis of an argument list: asked for at the
largest word, there is no list, where natural numbers give an empty one at the end of the text
(`words_agree_iff`).
-/
namespace MessageKeys

open Text

/-! ## Arithmetic -/

/-- How far numbers go: up to a largest one, or on and on. -/
structure Arithmetic where
  largest? : Option Nat

namespace Arithmetic

/-- Natural numbers. -/
def unbounded : Arithmetic := ⟨none⟩

/-- 64-bit words. -/
def words : Arithmetic := ⟨some wordMax⟩

/-- A sum, unless it exceeds the largest number. -/
def add? (arith : Arithmetic) (a b : Nat) : Option Nat :=
  if arith.largest?.any (· < a + b) then none else some (a + b)

/-- A difference, unless it would be below zero. -/
def sub? (a b : Nat) : Option Nat := if a < b then none else some (a - b)

/-- All sums up to a limit are there. -/
def Exact (arith : Arithmetic) (limit : Nat) : Prop :=
  ∀ ⦃a b⦄, a + b ≤ limit → arith.add? a b = some (a + b)

theorem exact_unbounded (limit : Nat) : unbounded.Exact limit := fun _ _ _ => rfl

theorem exact_words : words.Exact wordMax := by
  intro a b small
  simp [words, add?, Nat.not_lt.mpr small]

theorem words_add?_eq_none {a b : Nat} (large : wordMax < a + b) : words.add? a b = none := by
  simp [words, add?, large]

theorem sub?_eq_some {a b : Nat} (less : b ≤ a) : sub? a b = some (a - b) :=
  if_neg (Nat.not_lt.mpr less)

/-- Zero in place of a difference below it. -/
theorem getD_sub? (a b : Nat) : (sub? a b).getD 0 = a - b := by
  unfold sub?
  split
  · rw [Option.getD_none]
    omega
  · rfl

end Arithmetic

/-! ## Lines and columns -/

/-- Positions after each `\n` of a text that stands at byte `offset`. -/
def breaksIn? (arith : Arithmetic) (offset : Nat) : Text → Option (List Nat)
  | [] => some []
  | c :: rest =>
    (arith.add? offset c.utf8Size).bind fun behind =>
      (breaksIn? arith behind rest).map fun later => if c = '\n' then behind :: later else later

namespace LineIndex

def ofTextIn? (arith : Arithmetic) (source : Text) : Option LineIndex :=
  (breaksIn? arith 0 source).map fun breaks => ⟨source, (0 :: breaks).toArray⟩

/-- The line of a position: one that starts there is the one behind those that start before. -/
def lineOfIn? (arith : Arithmetic) (index : LineIndex) (offset : Nat) : Option Nat :=
  match place index.starts.toList offset with
  | .ok position => arith.add? position 1
  | .error position => some position

def lineColumnIn? (arith : Arithmetic) (index : LineIndex) (offset : Nat) : Option (Nat × Nat) :=
  let offset := min offset (size index.source)
  (index.lineOfIn? arith offset).bind fun line =>
    (Arithmetic.sub? line 1).bind fun row =>
      index.starts[row]?.bind fun start =>
        (arith.add? (((slice? index.source start offset).map List.length).getD 0) 1).map
          fun column => (line, column)

/-- The text of a line. No line is before the first one, whatever numbers are used. -/
def lineTextIn (index : LineIndex) (line : Nat) : Text :=
  match index.starts[(Arithmetic.sub? line 1).getD 0]? with
  | none => []
  | some start =>
    let stop := index.starts[line]?.getD (size index.source)
    withoutLineEnd ((slice? index.source start stop).getD [])

/-- The position of a line and column, or none, unless the computation fails. -/
def offsetOfIn? (arith : Arithmetic) (index : LineIndex) (line column : Nat) :
    Option (Option Nat) :=
  match (Arithmetic.sub? line 1).bind fun row => index.starts[row]? with
  | none => some none
  | some start =>
    (arith.add? start
      (size ((index.lineTextIn line).take ((Arithmetic.sub? column 1).getD 0)))).map some

def contextAtIn? (arith : Arithmetic) (index : LineIndex) (file : Text) (offset : Nat) :
    Option SourceContext :=
  (index.lineColumnIn? arith offset).map fun (line, column) =>
    ⟨⟨file, line, column⟩, index.lineTextIn line⟩

end LineIndex

/-! ## Exact arithmetic gives lines and columns -/

/-- What is computed from a position, or from a line and a column, is what natural numbers give; no
computation fails. -/
structure AgreesAt (arith : Arithmetic) (source file : Text) (offset line column : Nat) :
    Prop where
  starts : LineIndex.ofTextIn? arith source = some (.ofText source)
  lineOf : (LineIndex.ofText source).lineOfIn? arith offset =
    some ((LineIndex.ofText source).lineOf offset)
  lineColumn : (LineIndex.ofText source).lineColumnIn? arith offset =
    some ((LineIndex.ofText source).lineColumn offset)
  offsetOf : (LineIndex.ofText source).offsetOfIn? arith line column =
    some ((LineIndex.ofText source).offsetOf? line column)
  lineText : (LineIndex.ofText source).lineTextIn line = (LineIndex.ofText source).lineText line
  contextAt : (LineIndex.ofText source).contextAtIn? arith file offset =
    some ((LineIndex.ofText source).contextAt file offset)

/-- The text of a line ends within the source. -/
theorem start_add_lineText_le {source : Text} {line start : Nat} (positive : 1 ≤ line)
    (starts : (LineIndex.ofText source).starts[line - 1]? = some start) :
    start + size ((LineIndex.ofText source).lineText line) ≤ size source := by
  obtain ⟨within, _⟩ := Array.getElem?_eq_some_iff.mp starts
  rw [size_starts] at within
  obtain ⟨before, after, rfl, count, fresh⟩ := @exists_lineStart source (line - 1) (by omega)
  obtain rfl : line = before.count '\n' + 1 := by omega
  rw [Nat.add_sub_cancel, lineStart_append, beforeLastLine_of_lastLine fresh,
    Option.some.injEq] at starts
  obtain ⟨_, rest, behind⟩ := exists_of_prefix_lineText (List.prefix_refl (withoutLineEnd
    (firstLine after)))
  have sizes := congrArg size behind
  rw [size_append] at sizes
  rw [lineText_append, fresh, List.nil_append, size_append]
  omega

/-- The line of a position is one of those of the text, which has at most one more than bytes. -/
theorem lineOf_bounds (source : Text) (offset : Nat) :
    1 ≤ (LineIndex.ofText source).lineOf offset ∧
      (LineIndex.ofText source).lineOf offset ≤ size source + 1 := by
  have fewer := Nat.le_trans (List.count_le_length (a := '\n')) (length_le_size source)
  obtain ⟨first, last⟩ := lineOf_within source offset
  rw [size_starts] at last
  exact ⟨first, by omega⟩

/-- What stands behind a position is the rest of the text. -/
theorem exists_of_dropBytes? {text rest : Text} {position : Nat}
    (cut : dropBytes? text position = some rest) :
    ∃ front, text = front ++ rest ∧ size front = position := by
  fun_induction dropBytes? text position with
  | case1 text => exact ⟨[], by simpa using cut, rfl⟩
  | case2 => cases cut
  | case3 c more position fits ih =>
    obtain ⟨front, rfl, place⟩ := ih cut
    exact ⟨c :: front, rfl, by rw [size_cons]; omega⟩
  | case4 => cases cut

theorem exists_of_takeBytes? {text front : Text} {position : Nat}
    (cut : takeBytes? text position = some front) : ∃ rest, text = front ++ rest := by
  fun_induction takeBytes? text position generalizing front with
  | case1 text => exact ⟨text, by cases cut; rfl⟩
  | case2 => cases cut
  | case3 c more position fits ih =>
    obtain ⟨inner, found, rfl⟩ := Option.map_eq_some_iff.mp cut
    obtain ⟨rest, rfl⟩ := ih found
    exact ⟨rest, rfl⟩
  | case4 => cases cut

theorem size_le_of_slice? {text part : Text} {start stop : Nat}
    (cut : slice? text start stop = some part) : size part ≤ size text := by
  unfold slice? at cut
  split at cut
  · obtain ⟨rest, behind, taken⟩ := Option.bind_eq_some_iff.mp cut
    obtain ⟨front, rfl, _⟩ := exists_of_dropBytes? behind
    obtain ⟨more, rfl⟩ := exists_of_takeBytes? taken
    rw [size_append, size_append]
    omega
  · cases cut

theorem size_take_le (text : Text) (count : Nat) : size (text.take count) ≤ size text := by
  have parts := congrArg size (List.take_append_drop count text)
  rw [size_append] at parts
  omega

/-- The characters of a part of a text, none if there is no such part. -/
theorem length_slice?_le (text : Text) (start stop : Nat) :
    ((slice? text start stop).map List.length).getD 0 ≤ size text := by
  cases cut : slice? text start stop with
  | none => exact Nat.zero_le _
  | some part => exact Nat.le_trans (length_le_size part) (size_le_of_slice? cut)

theorem lineTextIn_eq (source : Text) (line : Nat) :
    (LineIndex.ofText source).lineTextIn line = (LineIndex.ofText source).lineText line := by
  rw [LineIndex.lineTextIn, Arithmetic.getD_sub?, LineIndex.lineText]
  rfl

section Exact

variable {arith : Arithmetic} {limit : Nat} {source : Text} (exact : arith.Exact limit)
  (fits : size source < limit)

theorem breaksIn?_eq (exact : arith.Exact limit) {offset : Nat} {text : Text}
    (fits : offset + size text ≤ limit) :
    breaksIn? arith offset text = some (lineBreaks offset text) := by
  induction text generalizing offset with
  | nil => rfl
  | cons c rest ih =>
    rw [size_cons] at fits
    rw [breaksIn?, exact (by omega), Option.bind_some, ih (by omega), Option.map_some, lineBreaks]
    by_cases newline : c = '\n'
    · have one : c.utf8Size = 1 := by rw [newline]; rfl
      rw [if_pos newline, if_pos newline, one]
    · rw [if_neg newline, if_neg newline]

include exact fits

theorem ofTextIn?_eq : LineIndex.ofTextIn? arith source = some (.ofText source) := by
  rw [LineIndex.ofTextIn?, breaksIn?_eq exact (by omega)]
  rfl

theorem lineOfIn?_eq (offset : Nat) :
    (LineIndex.ofText source).lineOfIn? arith offset =
      some ((LineIndex.ofText source).lineOf offset) := by
  have bounds := lineOf_bounds source offset
  have told := lineOf_eq_lineTold (searchEnds_place (pairwise_starts source) offset)
  rw [told] at bounds ⊢
  rw [LineIndex.lineOfIn?]
  cases found : place (LineIndex.ofText source).starts.toList offset with
  | ok position =>
    rw [found, lineTold] at bounds
    exact exact (by omega)
  | error position => rfl

theorem lineColumnIn?_eq (offset : Nat) :
    (LineIndex.ofText source).lineColumnIn? arith offset =
      some ((LineIndex.ofText source).lineColumn offset) := by
  obtain ⟨first, last⟩ := lineOf_within source (min offset (size source))
  have inside : (LineIndex.ofText source).lineOf (min offset (size source)) - 1 <
      (LineIndex.ofText source).starts.size := by omega
  have same : (LineIndex.ofText source).source = source := rfl
  have short := length_slice?_le source
    ((LineIndex.ofText source).starts[(LineIndex.ofText source).lineOf
      (min offset (size source)) - 1]) (min offset (size source))
  simp only [LineIndex.lineColumnIn?, LineIndex.lineColumn, same, lineOfIn?_eq exact fits,
    Option.bind_some, Arithmetic.sub?_eq_some first, Array.getElem?_eq_getElem inside]
  rw [exact (by omega), Option.map_some]

theorem offsetOfIn?_eq (line column : Nat) :
    (LineIndex.ofText source).offsetOfIn? arith line column =
      some ((LineIndex.ofText source).offsetOf? line column) := by
  rw [LineIndex.offsetOfIn?, Arithmetic.getD_sub?, lineTextIn_eq, LineIndex.offsetOf?]
  by_cases zero : line = 0
  · rw [if_pos zero, zero]
    rfl
  · rw [if_neg zero, Arithmetic.sub?_eq_some (by omega), Option.bind_some]
    cases starts : (LineIndex.ofText source).starts[line - 1]? with
    | none => rfl
    | some start =>
      have within := start_add_lineText_le (by omega) starts
      have shorter := size_take_le ((LineIndex.ofText source).lineText line) (column - 1)
      simp only [Option.map_some]
      rw [exact (by omega), Option.map_some]

/-- Where all sums up to a limit above the size of a text are there, everything is what natural
numbers give. -/
theorem agreesAt_of_exact (file : Text) (offset line column : Nat) :
    AgreesAt arith source file offset line column where
  starts := ofTextIn?_eq exact fits
  lineOf := lineOfIn?_eq exact fits offset
  lineColumn := lineColumnIn?_eq exact fits offset
  offsetOf := offsetOfIn?_eq exact fits line column
  lineText := lineTextIn_eq source line
  contextAt := by
    simp only [LineIndex.contextAtIn?, lineColumnIn?_eq exact fits, Option.map_some, lineTextIn_eq]
    rfl

end Exact

/-! ## Argument lists -/

namespace Call

/-- The text before the parenthesis that brings the number of open ones back to zero, or none,
unless the computation fails. -/
def beforeCloseIn? (arith : Arithmetic) (depth : Nat) : Text → Option (Option Text)
  | [] => some none
  | c :: rest =>
    if c = '(' then
      (arith.add? depth 1).bind fun deeper =>
        (beforeCloseIn? arith deeper rest).map (·.map (c :: ·))
    else if c = ')' then
      (Arithmetic.sub? depth 1).bind fun outer =>
        if outer = 0 then some (some [])
        else (beforeCloseIn? arith outer rest).map (·.map (c :: ·))
    else (beforeCloseIn? arith depth rest).map (·.map (c :: ·))

/-- The list whose opening parenthesis stands at byte `openAt`. The position behind it is computed
whether or not one stands there. -/
def ArgumentList.extractIn? (arith : Arithmetic) (source : Text) (openAt : Nat) :
    Option ArgumentList :=
  (arith.add? openAt 1).bind fun next =>
    let start := min next (size source)
    match dropBytes? source openAt with
    | some ('(' :: rest) =>
      (arith.add? 0 1).bind fun depth =>
        (beforeCloseIn? arith depth rest).map fun
          | some list => ⟨list, start, true⟩
          | none => ⟨rest, start, false⟩
    | _ => some ⟨[], start, false⟩

/-- No count of open parentheses exceeds the size of a text. -/
theorem beforeCloseIn?_eq {arith : Arithmetic} {limit : Nat} (exact : arith.Exact limit)
    {depth : Nat} {text : Text} (fits : depth + 1 + text.length ≤ limit) :
    beforeCloseIn? arith (depth + 1) text = some (beforeClose? depth text) := by
  induction text generalizing depth with
  | nil => rfl
  | cons c rest ih =>
    rw [List.length_cons] at fits
    have higher : Arithmetic.sub? (depth + 1) 1 = some depth := Arithmetic.sub?_eq_some (by omega)
    unfold beforeCloseIn? beforeClose?
    rw [exact (by omega), higher, Option.bind_some, Option.bind_some, ih (by omega), ih (by omega)]
    split
    · rfl
    · split
      · cases depth with
        | zero => rfl
        | succ outer =>
          rw [if_neg (Nat.succ_ne_zero outer), ih (by omega)]
          rfl
      · rfl

/-- From a parenthesis the same list is extracted. -/
theorem extractIn?_of_opened {arith : Arithmetic} {limit : Nat} (exact : arith.Exact limit)
    {source rest : Text} {openAt : Nat} (fits : size source < limit)
    (opened : dropBytes? source openAt = some ('(' :: rest)) :
    ArgumentList.extractIn? arith source openAt = ArgumentList.extract? source openAt := by
  obtain ⟨front, whole, place⟩ := exists_of_dropBytes? opened
  have one : '('.utf8Size = 1 := rfl
  have sizes := congrArg size whole
  rw [size_append, size_cons, one] at sizes
  have short := length_le_size rest
  have behind : min (openAt + 1) (size source) = openAt + 1 := by omega
  have closed : beforeCloseIn? arith (0 + 1) rest = some (beforeClose? 0 rest) :=
    beforeCloseIn?_eq exact (by omega)
  rw [ArgumentList.extractIn?, ArgumentList.extract?, exact (by omega), Option.bind_some]
  simp only [opened, behind]
  rw [exact (by omega), Option.bind_some, closed, Option.map_some]
  cases beforeClose? 0 rest with
  | none => rfl
  | some arguments => rfl

/-- No parenthesis stands at a byte. -/
def Unopened (source : Text) (openAt : Nat) : Prop :=
  ∀ rest, dropBytes? source openAt ≠ some ('(' :: rest)

theorem unopened_of_size_le {source : Text} {openAt : Nat} (past : size source ≤ openAt) :
    Unopened source openAt := by
  intro rest opened
  obtain ⟨front, rfl, place⟩ := exists_of_dropBytes? opened
  have one : '('.utf8Size = 1 := rfl
  rw [size_append, size_cons, one] at past
  omega

/-- The list that there is where no parenthesis stands. -/
def ArgumentList.emptyBehind (source : Text) (next : Nat) : ArgumentList :=
  ⟨[], min next (size source), false⟩

section Unopened

variable {source : Text} {openAt : Nat} (unopened : Unopened source openAt)

include unopened

theorem extractIn?_of_unopened (arith : Arithmetic) :
    ArgumentList.extractIn? arith source openAt =
      (arith.add? openAt 1).map (.emptyBehind source) := by
  rw [ArgumentList.extractIn?, Option.map_eq_bind]
  congr 1
  funext next
  dsimp only
  split
  · next rest opened => exact absurd opened (unopened rest)
  · rfl

theorem extract?_of_unopened :
    ArgumentList.extract? source openAt = (wordSucc? openAt).map (.emptyBehind source) := by
  rw [ArgumentList.extract?]
  split
  · next rest opened => exact absurd opened (unopened rest)
  · rfl

end Unopened

theorem wordSucc?_eq (openAt : Nat) : wordSucc? openAt = Arithmetic.words.add? openAt 1 := by
  unfold wordSucc?
  split
  · next smaller => exact (Arithmetic.exact_words smaller).symm
  · next larger => exact (Arithmetic.words_add?_eq_none (by omega)).symm

/-- Argument lists are extracted with words. -/
theorem extractIn?_words {source : Text} (fits : size source < wordMax) (openAt : Nat) :
    ArgumentList.extractIn? .words source openAt = ArgumentList.extract? source openAt := by
  by_cases unopened : Unopened source openAt
  · rw [extractIn?_of_unopened unopened, extract?_of_unopened unopened, wordSucc?_eq]
  · obtain ⟨rest, opened⟩ := Classical.not_forall_not.mp unopened
    exact extractIn?_of_opened Arithmetic.exact_words fits opened

/-- At the largest word there is no list. -/
theorem extract?_wordMax {source : Text} (fits : size source < wordMax) :
    ArgumentList.extract? source wordMax = none := by
  rw [extract?_of_unopened (unopened_of_size_le (Nat.le_of_lt fits)), wordSucc?,
    if_neg (Nat.lt_irrefl _), Option.map_none]

/-- Natural numbers always give a list. -/
theorem isSome_extractIn?_unbounded (source : Text) (openAt : Nat) :
    (ArgumentList.extractIn? .unbounded source openAt).isSome = true := by
  have sum : ∀ a b, Arithmetic.unbounded.add? a b = some (a + b) := fun _ _ => rfl
  by_cases unopened : Unopened source openAt
  · rw [extractIn?_of_unopened unopened, sum]
    rfl
  · obtain ⟨rest, opened⟩ := Classical.not_forall_not.mp unopened
    have exact := Arithmetic.exact_unbounded (size source + 1)
    rw [extractIn?_of_opened exact (Nat.lt_succ_self _) opened]
    simp only [ArgumentList.extract?, opened]
    split
    · rfl
    · rfl

/-- Words and natural numbers differ for the largest word only. -/
theorem extract?_eq_unbounded_iff {source : Text} (fits : size source < wordMax) {openAt : Nat}
    (isWord : openAt ≤ wordMax) :
    ArgumentList.extract? source openAt = ArgumentList.extractIn? .unbounded source openAt ↔
      openAt < wordMax := by
  constructor
  · intro same
    refine Nat.lt_of_le_of_ne isWord ?_
    rintro rfl
    have given := isSome_extractIn?_unbounded source wordMax
    rw [← same, extract?_wordMax fits] at given
    cases given
  · intro smaller
    by_cases unopened : Unopened source openAt
    · rw [extractIn?_of_unopened unopened, extract?_of_unopened unopened, wordSucc?_eq,
        Arithmetic.exact_words smaller]
      rfl
    · obtain ⟨rest, opened⟩ := Classical.not_forall_not.mp unopened
      exact (extractIn?_of_opened (Arithmetic.exact_unbounded wordMax) fits opened).symm

/-- Behind the end of a text there is an empty list at its end. -/
theorem extract?_past_end {source : Text} {openAt : Nat} (past : size source ≤ openAt)
    (smaller : openAt < wordMax) :
    ArgumentList.extract? source openAt = some ⟨[], size source, false⟩ := by
  rw [extract?_of_unopened (unopened_of_size_le past), wordSucc?, if_pos smaller, Option.map_some,
    ArgumentList.emptyBehind, Nat.min_eq_right (by omega)]

end Call

open Call

/-- Computed with words, lines, columns, line texts and positions are those of natural numbers, and
nothing fails, for every word and every text that leaves a word for the position behind its end. So
are argument lists, but for one that is asked for at the largest word: the computation fails, while
natural numbers give a list for every position. Any other one behind the end of the text is empty
and stands at the end. -/
theorem words_agree_iff (source file : Text) (fits : size source < wordMax) :
    (∀ offset line column, AgreesAt .unbounded source file offset line column) ∧
    (∀ offset line column, offset ≤ wordMax → line ≤ wordMax → column ≤ wordMax →
      AgreesAt .words source file offset line column) ∧
    (∀ openAt ≤ wordMax,
      ArgumentList.extractIn? .words source openAt = ArgumentList.extract? source openAt ∧
      (ArgumentList.extractIn? .unbounded source openAt).isSome = true ∧
      (ArgumentList.extract? source openAt = ArgumentList.extractIn? .unbounded source openAt ↔
        openAt < wordMax)) ∧
    ArgumentList.extract? source wordMax = none ∧
    ∀ openAt < wordMax, size source ≤ openAt →
      ArgumentList.extract? source openAt = some ⟨[], size source, false⟩ := by
  refine ⟨?_, ?_, ?_, extract?_wordMax fits,
    fun openAt smaller past => extract?_past_end past smaller⟩
  · intro offset line column
    exact agreesAt_of_exact (Arithmetic.exact_unbounded (size source + 1)) (Nat.lt_succ_self _) file
      offset line column
  · intro offset line column _ _ _
    exact agreesAt_of_exact Arithmetic.exact_words fits file offset line column
  · intro openAt isWord
    exact ⟨extractIn?_words fits openAt, isSome_extractIn?_unbounded source openAt,
      extract?_eq_unbounded_iff fits isWord⟩

/-- Two lines with an argument list, and the largest word for every position. -/
theorem words_agree_iff_largest :
    let source := "é(a\r\nb)".toList
    size source < wordMax ∧
      AgreesAt .words source "A.java".toList wordMax wordMax wordMax ∧
      (LineIndex.ofText source).lineColumn wordMax = (2, 3) ∧
      ArgumentList.extract? source 2 = ArgumentList.extractIn? .unbounded source 2 ∧
      ArgumentList.extract? source 2 = some ⟨"a\r\nb".toList, 3, true⟩ ∧
      ArgumentList.extract? source (wordMax - 1) = some ⟨[], 8, false⟩ := by
  intro source
  have fits : size source < wordMax := by decide +kernel
  obtain ⟨_, agrees, lists, _, past⟩ := words_agree_iff source "A.java".toList fits
  exact ⟨fits, agrees _ _ _ (Nat.le_refl _) (Nat.le_refl _) (Nat.le_refl _), by decide +kernel,
    (lists 2 (by decide +kernel)).2.2.mpr (by decide +kernel), by decide +kernel,
    past _ (by decide +kernel) (by decide +kernel)⟩

/-- At the largest word the computation of an argument list fails. -/
theorem extract?_fails :
    ArgumentList.extract? "log".toList wordMax = none ∧
      ArgumentList.extractIn? .unbounded "log".toList wordMax = some ⟨[], 3, false⟩ := by
  decide +kernel

end MessageKeys
