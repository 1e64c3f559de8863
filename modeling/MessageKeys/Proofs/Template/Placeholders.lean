import Mathlib.Algebra.Group.Nat.Even
import Mathlib.Data.List.Induction
import MessageKeys.Proofs.Sorting
import MessageKeys.Proofs.Template.Matching
import MessageKeys.Regex.Parser

/-!
Which placeholders a template has.

While a template is read, it is known whether an odd run of backslashes ends at the place that has
been reached (`escapedBehind_eq`). So the indices that are read are those of the numbers in braces
which are not escaped (`mem_occurrences_iff`). The pattern of placeholders is read from its text
token by token (`ofText?_pattern`). Its matches are all numbers in braces, and what is left of them
without those that are escaped or too large is the same set.
-/
namespace MessageKeys.Template

open Regex

/-! ## Reading a template -/

/-- Whether a brace behind a text is escaped: an odd run of backslashes ends there. -/
def isEscaped (front : Text) : Bool := (front.reverse.takeWhile (· == '\\')).length % 2 == 1

/-- What is known behind a text of a run of backslashes. -/
def escapedBehind (escaped : Bool) (front : Text) : Bool :=
  front.foldl (fun escaped c => c == '\\' && !escaped) escaped

theorem isEscaped_concat (front : Text) (c : Char) :
    isEscaped (front ++ [c]) = (c == '\\' && !isEscaped front) := by
  rw [isEscaped, isEscaped, List.reverse_append, List.reverse_singleton, List.singleton_append]
  by_cases slash : c = '\\'
  · rw [List.takeWhile_cons_of_pos (by simp [slash]), List.length_cons]
    generalize (front.reverse.takeWhile (· == '\\')).length = run
    rcases Nat.mod_two_eq_zero_or_one run with even | odd
    · simp [slash, even, Nat.add_mod]
    · simp [slash, odd, Nat.add_mod]
  · rw [List.takeWhile_cons_of_neg (by simpa using slash)]
    simp [slash]

theorem escapedBehind_eq (front : Text) : escapedBehind false front = isEscaped front := by
  induction front using List.reverseRecOn with
  | nil => rfl
  | append_singleton front c ih =>
    rw [escapedBehind, List.foldl_concat, ← escapedBehind, ih, isEscaped_concat]

theorem index?_eq (afterBrace : Text) :
    index? afterBrace = (number? afterBrace).bind fun digits =>
      if Text.digitsValue digits < Text.wordMax then some (Text.digitsValue digits) else none := by
  unfold index? number?
  by_cases number : afterBrace.takeWhile Text.isDigit ≠ [] ∧
      (afterBrace.dropWhile Text.isDigit).head? = some '}'
  · simp [number]
  · have none : ∀ {p : Prop}, ¬(afterBrace.takeWhile Text.isDigit ≠ [] ∧
        (afterBrace.dropWhile Text.isDigit).head? = some '}' ∧ p) :=
      fun all => number ⟨all.1, all.2.1⟩
    dsimp only
    rw [if_neg none, if_neg number]
    rfl

theorem index?_eq_some_iff {afterBrace : Text} {n : Nat} :
    index? afterBrace = some n ↔
      ∃ digits, number? afterBrace = some digits ∧ Text.digitsValue digits = n ∧
        n < Text.wordMax := by
  rw [index?_eq, Option.bind_eq_some_iff]
  constructor
  · rintro ⟨digits, number, value⟩
    split at value
    next fits =>
      cases value
      exact ⟨digits, number, rfl, fits⟩
    · cases value
  · rintro ⟨digits, number, rfl, fits⟩
    exact ⟨digits, number, if_pos fits⟩

theorem mem_occurrences_iff {escaped : Bool} {text : Text} {n : Nat} :
    n ∈ occurrences escaped text ↔
      ∃ front digits, Braced text front digits ∧ escapedBehind escaped front = false ∧
        Text.digitsValue digits = n ∧ n < Text.wordMax := by
  induction text generalizing escaped with
  | nil => simp [occurrences, Braced]
  | cons c rest ih =>
    rw [occurrences, List.mem_append, ih]
    constructor
    · rintro (here | ⟨front, digits, ⟨behind, rfl, number⟩, free, value⟩)
      · split at here
        next opens =>
          rw [Option.mem_toList, index?_eq_some_iff] at here
          obtain ⟨digits, number, value⟩ := here
          have free : escaped = false := by simpa using opens.2
          exact ⟨[], digits, ⟨rest, by rw [opens.1]; rfl, number⟩, free, value⟩
        · cases here
      · exact ⟨c :: front, digits, ⟨behind, rfl, number⟩, free, value⟩
    · rintro ⟨front, digits, ⟨behind, whole, number⟩, free, value⟩
      cases front with
      | nil =>
        rw [List.nil_append, List.cons.injEq] at whole
        obtain ⟨rfl, rfl⟩ := whole
        have plain : escaped = false := free
        rw [if_pos ⟨rfl, by simp [plain]⟩, Option.mem_toList, index?_eq_some_iff]
        exact .inl ⟨digits, number, value⟩
      | cons first front =>
        rw [List.cons_append, List.cons.injEq] at whole
        obtain ⟨rfl, rfl⟩ := whole
        exact .inr ⟨front, digits, ⟨behind, rfl, number⟩, free, value⟩

theorem PlaceholderSet.mem_parse_iff {template : Text} {n : Nat} :
    n ∈ (parse template).indices ↔
      ∃ front digits, Braced template front digits ∧ isEscaped front = false ∧
        Text.digitsValue digits = n ∧ n < Text.wordMax := by
  rw [mem_parse, mem_occurrences_iff]
  simp only [escapedBehind_eq]

/-! ## Reading the pattern -/

/-- Digits in brackets; the text of the pattern goes on behind them. -/
theorem readToken?_digits (rest : Text) :
    readToken? .start '[' ('0' :: '-' :: '9' :: ']' :: rest) = some (.one ⟨digit, 1⟩, rest) := by
  have alone : CodeRanges.union [] digit = digit := by
    rw [CodeRanges.union, List.nil_merge]
    rfl
  rw [← alone]
  rfl

/-- A pattern is read token by token. -/
theorem readAll?_cons {fuel : Nat} {progress next : Progress} {token : Token} {c : Char}
    {rest behind : Text}
    (starts : progress.frame.flags.skip (c :: rest) = c :: rest)
    (read : readToken? progress.frame.flags c rest = some (token, behind))
    (step : progress.step? token = some next) :
    Progress.readAll? (fuel + 1) progress (c :: rest) = Progress.readAll? fuel next behind := by
  simp [Progress.readAll?, starts, read, step]

theorem isSmall_pattern : pattern.isSmall = true := by
  simp only [isSmall, automaton?, pattern, layout?, Layout.repeat?]
  decide +kernel

/-- What has been read of the pattern in front of its bracket. -/
def beforeBracket : Progress :=
  ⟨.opened (some 1) .start, [⟨none, [], [⟨some (.char opening), 0⟩], .start⟩], 1, []⟩

/-- The pattern is read to its end, and no group is left open. -/
theorem readAll?_pattern :
    (Progress.readAll? 13 .start "\\\x7b([0-9]+)\\\x7d".toList).map
      (fun progress => (progress.frame.body, progress.outer)) = some (⟨some pattern, 4⟩, []) := by
  have front : Progress.readAll? 13 .start "\\\x7b([0-9]+)\\\x7d".toList =
      Progress.readAll? 11 beforeBracket ('[' :: '0' :: '-' :: '9' :: ']' :: "+)\\\x7d".toList) :=
    (readAll?_cons rfl rfl rfl).trans (readAll?_cons rfl rfl rfl)
  rw [front, readAll?_cons rfl (readToken?_digits _) rfl]
  decide +kernel

theorem ofText?_pattern :
    Regex.ofText? "\\\x7b([0-9]+)\\\x7d".toList = some pattern := by
  obtain ⟨progress, read, shape⟩ := Option.map_eq_some_iff.mp readAll?_pattern
  rw [Prod.mk.injEq] at shape
  have length : "\\\x7b([0-9]+)\\\x7d".toList.length + 1 = 13 := rfl
  rw [ofText?, length, read]
  simp [shape, isSmall_pattern, depthLimit]

/-! ## Filtering the matches -/

/-- The indices that the group of a pattern keeps, one brace behind the beginning of each match,
without those that are escaped and those whose count does not fit a word. -/
def matchedIndices (pattern : Regex) (template : Text) : List Nat :=
  (pattern.findAll template).filterMap fun kept? => do
    let kept ← kept?
    let front ← Text.takeBytes? template (kept.start - 1)
    let n ← Text.parseNat? kept.text
    if isEscaped front = false ∧ n < Text.wordMax then some n else none

theorem parseNat?_number {digits : Text} (filled : digits ≠ [])
    (allDigits : ∀ c ∈ digits, Text.isDigit c = true) :
    Text.parseNat? digits =
      if Text.digitsValue digits ≤ Text.wordMax then some (Text.digitsValue digits) else none := by
  have unsigned : Text.after? ['+'] digits = none := by
    obtain ⟨first, rest, rfl⟩ := List.exists_cons_of_ne_nil filled
    have isDigit := allDigits first List.mem_cons_self
    have different : '+' ≠ first := by
      rintro rfl
      cases isDigit
    rw [Text.after?, if_neg different]
  have all : digits.all Text.isDigit = true := List.all_eq_true.mpr allDigits
  simp [Text.parseNat?, unsigned, filled, all]

theorem mem_matchedIndices_iff {template : Text} {n : Nat} :
    n ∈ matchedIndices pattern template ↔
      ∃ front digits, Braced template front digits ∧ isEscaped front = false ∧
        Text.digitsValue digits = n ∧ n < Text.wordMax := by
  have place : ∀ {front digits : Text}, Braced template front digits →
      Text.takeBytes? template (Text.size front + 1 - 1) = some front := by
    rintro front digits ⟨rest, rfl, _⟩
    rw [Nat.add_sub_cancel, Text.takeBytes?_append]
  have read : ∀ {front digits : Text}, Braced template front digits →
      Text.parseNat? digits =
        if Text.digitsValue digits ≤ Text.wordMax then some (Text.digitsValue digits)
        else none := by
    rintro front digits ⟨rest, _, number⟩
    obtain ⟨filled, allDigits, _⟩ := number?_eq_some_iff.mp number
    exact parseNat?_number filled allDigits
  rw [matchedIndices, List.mem_filterMap]
  constructor
  · rintro ⟨kept?, member, kept⟩
    obtain ⟨front, digits, braced, rfl⟩ := mem_findAll_iff.mp member
    simp only [Option.bind_eq_bind, Option.bind_some, place braced, read braced] at kept
    by_cases fits : Text.digitsValue digits ≤ Text.wordMax
    · rw [if_pos fits, Option.bind_some] at kept
      split at kept
      next both =>
        cases kept
        exact ⟨front, digits, braced, both.1, rfl, both.2⟩
      · cases kept
    · rw [if_neg fits] at kept
      cases kept
  · rintro ⟨front, digits, braced, free, rfl, fits⟩
    refine ⟨_, mem_findAll_iff.mpr ⟨front, digits, braced, rfl⟩, ?_⟩
    simp only [Option.bind_eq_bind, Option.bind_some, place braced, read braced,
      if_pos (Nat.le_of_lt fits), if_pos (And.intro free fits)]

/-- Sets of the same indices are equal. -/
theorem PlaceholderSet.eq_of_mem_iff {set other : PlaceholderSet}
    (same : ∀ n, n ∈ set.indices ↔ n ∈ other.indices) : set = other := by
  have up : ∀ set : PlaceholderSet, Increasing compare set.indices :=
    fun set => set.increasing.imp Nat.compare_eq_lt.mpr
  have indices := eq_of_increasing (up set) (up other) same
  cases set
  cases other
  cases indices
  rfl

/-- The placeholders of a template are its numbers in braces that stand behind an even run of
backslashes and are less than the largest word. They are also what is left of the leftmost matches
of a pattern, each searched behind the last one: none is lost to another match. -/
theorem placeholders_unescaped (template : Text) :
    (∀ n, n ∈ (PlaceholderSet.parse template).indices ↔
      ∃ front digits back, template = front ++ '{' :: (digits ++ '}' :: back) ∧
        digits ≠ [] ∧ (∀ c ∈ digits, Text.isDigit c = true) ∧ Text.digitsValue digits = n ∧
        Even (front.reverse.takeWhile (· == '\\')).length ∧ n < 2 ^ 64 - 1) ∧
    ∃ pattern, Regex.ofText? "\\\x7b([0-9]+)\\\x7d".toList = some pattern ∧
      PlaceholderSet.parse template = .ofList (matchedIndices pattern template) := by
  constructor
  · intro n
    rw [PlaceholderSet.mem_parse_iff]
    constructor
    · rintro ⟨front, digits, ⟨rest, rfl, number⟩, free, value, fits⟩
      obtain ⟨filled, allDigits, back, rfl⟩ := number?_eq_some_iff.mp number
      refine ⟨front, digits, back, rfl, filled, allDigits, value, ?_, fits⟩
      rw [isEscaped, beq_eq_false_iff_ne] at free
      exact Nat.even_iff.mpr (by omega)
    · rintro ⟨front, digits, back, rfl, filled, allDigits, value, even, fits⟩
      refine ⟨front, digits, ⟨_, rfl, ?_⟩, ?_, value, fits⟩
      · exact number?_eq_some_iff.mpr ⟨filled, allDigits, back, rfl⟩
      · rw [isEscaped, Nat.even_iff.mp even]
        rfl
  · refine ⟨pattern, ofText?_pattern, PlaceholderSet.eq_of_mem_iff fun n => ?_⟩
    rw [PlaceholderSet.mem_parse_iff, PlaceholderSet.mem_ofList, mem_matchedIndices_iff]

-- An escaped brace, one behind an escaped backslash, and one behind another brace.
example :
    (PlaceholderSet.parse "\\\x7b0\x7d\\\\\x7b1\x7d\x7b\x7b2\x7d".toList).indices = [1, 2] := by
  decide

end MessageKeys.Template
