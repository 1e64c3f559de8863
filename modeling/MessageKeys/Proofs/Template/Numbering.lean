import MessageKeys.Proofs.Source.Position
import MessageKeys.Proofs.Template.Placeholders

/-!
How the placeholders of a template are numbered.

The indices of a set increase, so there are at most as many of them as numbers up to the largest
one, and as many only if they are all of these numbers (`increasing_dense_iff`). Whether the
numbering is checked place by place, by the numbers in the set or by how many there are therefore
makes no difference (`numbering_checks_agree`). The expected count is never the largest word by
saturation, since no index of a template is that large. What describes a set is a template with the
same placeholders (`parse_describe`).
-/
namespace MessageKeys.Template

/-! ## Increasing numbers -/

/-- Increasing numbers from a start on are at most as many as there are numbers up to the last one,
and as many only if none of these is left out. -/
theorem increasing_dense_iff {indices : List Nat} (increasing : indices.Pairwise (· < ·))
    {start last : Nat} (bound : ∀ n ∈ indices, start ≤ n) (ends : indices.getLast? = some last) :
    start + indices.length ≤ last + 1 ∧
      (start + indices.length = last + 1 ↔ indices = List.range' start indices.length) := by
  induction indices generalizing start with
  | nil => cases ends
  | cons n rest ih =>
    obtain ⟨above, later⟩ := List.pairwise_cons.mp increasing
    have least : start ≤ n := bound n List.mem_cons_self
    rw [List.length_cons, List.range'_succ, List.cons.injEq]
    cases rest with
    | nil =>
      obtain rfl : n = last := by simpa using ends
      simp only [List.length_nil, List.range'_zero, and_true]
      omega
    | cons m more =>
      rw [List.getLast?_cons_cons] at ends
      obtain ⟨fewer, dense⟩ := ih later above ends
      refine ⟨by omega, ?_⟩
      constructor
      · intro full
        obtain rfl : n = start := by omega
        exact ⟨rfl, dense.mp (by omega)⟩
      · rintro ⟨rfl, same⟩
        have full := dense.mpr same
        omega

/-- Each index is its own position if the indices are all numbers from a start on. -/
theorem all_zipIdx_iff (indices : List Nat) (start : Nat) :
    ((indices.zipIdx start).all fun (index, position) => position == index) = true ↔
      indices = List.range' start indices.length := by
  induction indices generalizing start with
  | nil => simp
  | cons n rest ih =>
    rw [List.zipIdx_cons, List.all_cons, Bool.and_eq_true, ih, List.length_cons, List.range'_succ,
      List.cons.injEq, beq_iff_eq, eq_comm]

namespace PlaceholderSet

variable {set : PlaceholderSet}

theorem isWellFormed_iff :
    set.isWellFormed = true ↔ set.indices = List.range set.indices.length := by
  rw [isWellFormed, all_zipIdx_iff, List.range_eq_range']

/-- The last index is the largest one. -/
theorem getLast?_indices (set : PlaceholderSet) : set.indices.getLast? = set.indices.max? := by
  cases ends : set.indices.getLast? with
  | none => rw [List.getLast?_eq_none_iff.mp ends, List.max?_nil]
  | some last =>
    obtain ⟨front, shape⟩ := List.getLast?_eq_some_iff.mp ends
    have increasing := set.increasing
    rw [shape, List.pairwise_append] at increasing
    symm
    rw [List.max?_eq_some_iff, shape]
    refine ⟨by simp, ?_⟩
    intro n member
    rcases List.mem_append.mp member with inFront | isLast
    · exact Nat.le_of_lt (increasing.2.2 n inFront last (by simp))
    · exact Nat.le_of_eq (List.mem_singleton.mp isLast)

/-! ## Sets of templates -/

/-- A set of indices whose counts fit a word. -/
def Fits (set : PlaceholderSet) : Prop := ∀ n ∈ set.indices, n < Text.wordMax

theorem fits_parse (template : Text) : (parse template).Fits := by
  intro n member
  obtain ⟨_, _, _, _, _, fits⟩ := mem_parse_iff.mp member
  exact fits

/-- The count of a set that fits is not cut off. -/
theorem Fits.expectedCount_eq (fits : set.Fits) :
    set.expectedCount = set.indices.max?.elim 0 (· + 1) := by
  rw [← getLast?_indices, expectedCount]
  cases ends : set.indices.getLast? with
  | none => rfl
  | some largest =>
    have small := fits largest (List.mem_of_getLast? ends)
    exact Nat.min_eq_left (by omega)

theorem Fits.expectedCount_eq_zero_iff (fits : set.Fits) :
    set.expectedCount = 0 ↔ set.indices = [] := by
  rw [fits.expectedCount_eq, ← List.max?_eq_none_iff]
  cases set.indices.max? <;> simp

theorem Fits.isWellFormed_iff_length (fits : set.Fits) :
    set.isWellFormed = true ↔ set.indices.length = set.expectedCount := by
  rw [isWellFormed_iff, fits.expectedCount_eq, ← getLast?_indices, List.range_eq_range']
  cases ends : set.indices.getLast? with
  | none => simp [List.getLast?_eq_none_iff.mp ends]
  | some last =>
    have dense := (increasing_dense_iff set.increasing (fun n _ => Nat.zero_le n) ends).2
    rw [← dense, Nat.zero_add]
    rfl

theorem Fits.isWellFormed_iff_mem (fits : set.Fits) :
    set.isWellFormed = true ↔ ∀ n, n ∈ set.indices ↔ n < set.expectedCount := by
  constructor
  · intro wellFormed n
    rw [← fits.isWellFormed_iff_length.mp wellFormed, isWellFormed_iff.mp wellFormed,
      List.mem_range, List.length_range]
  · intro all
    -- An increasing list is determined by its members.
    have range : set = ⟨List.range set.expectedCount, List.pairwise_lt_range⟩ :=
      eq_of_mem_iff fun n => by rw [all, List.mem_range]
    have indices : set.indices = List.range set.expectedCount :=
      congrArg PlaceholderSet.indices range
    rw [fits.isWellFormed_iff_length, indices, List.length_range]

/-! ## Descriptions -/

/-- Text without braces and backslashes holds no placeholder and escapes none. -/
theorem occurrences_append_plain {plain : Text} (free : ∀ c ∈ plain, c ≠ '{' ∧ c ≠ '\\')
    (rest : Text) : occurrences false (plain ++ rest) = occurrences false rest := by
  induction plain with
  | nil => rfl
  | cons c more ih =>
    obtain ⟨noBrace, noSlash⟩ := free c List.mem_cons_self
    rw [List.cons_append, occurrences, if_neg (fun opens => noBrace opens.1),
      beq_false_of_ne noSlash, List.nil_append]
    exact ih fun d member => free d (List.mem_cons_of_mem c member)

/-- An index in braces is read as it is written. -/
theorem occurrences_braced {n : Nat} (fits : n < Text.wordMax) (rest : Text) :
    occurrences false ('{' :: Text.ofNat n ++ '}' :: rest) = n :: occurrences false rest := by
  have digits : ∀ c ∈ Text.ofNat n, Text.isDigit c = true :=
    fun c member => Text.isDigit_of_mem_ofNat member
  have read : index? (Text.ofNat n ++ '}' :: rest) = some n :=
    index?_eq_some_iff.mpr ⟨Text.ofNat n,
      number?_eq_some_iff.mpr ⟨Nat.toDigits_ne_nil, digits, rest, rfl⟩,
      Text.digitsValue_ofNat n, fits⟩
  have plain : ∀ c ∈ Text.ofNat n ++ ['}'], c ≠ '{' ∧ c ≠ '\\' := by
    intro c member
    rcases List.mem_append.mp member with digit | closing
    · constructor <;> rintro rfl <;> exact absurd (digits _ digit) (by decide)
    · rw [List.mem_singleton.mp closing]
      decide
  rw [List.cons_append, occurrences, if_pos ⟨rfl, by decide⟩, read]
  have behind := occurrences_append_plain plain rest
  rw [List.append_assoc, List.singleton_append] at behind
  exact congrArg (n :: ·) behind

/-- Indices as they are described. -/
def written (indices : List Nat) : Text :=
  Text.join [',', ' '] (indices.map fun index => '{' :: Text.ofNat index ++ ['}'])

theorem occurrences_written {indices : List Nat} (fits : ∀ n ∈ indices, n < Text.wordMax) :
    occurrences false (written indices) = indices := by
  induction indices with
  | nil => rfl
  | cons n rest ih =>
    have first := fits n List.mem_cons_self
    have later := ih fun m member => fits m (List.mem_cons_of_mem n member)
    cases rest with
    | nil => exact occurrences_braced first []
    | cons m more =>
      have between : ∀ c ∈ ([',', ' '] : Text), c ≠ '{' ∧ c ≠ '\\' := by simp
      have divided : written (n :: m :: more) =
          '{' :: Text.ofNat n ++ '}' :: ([',', ' '] ++ written (m :: more)) := by
        simp [written, Text.join]
      rw [divided, occurrences_braced first, occurrences_append_plain between, later]

/-- The description of a set that fits is a template with its placeholders. -/
theorem Fits.parse_describe (fits : set.Fits) : parse set.describe = set := by
  refine eq_of_mem_iff fun n => ?_
  have described : set.describe = written set.indices := rfl
  rw [mem_parse, described, occurrences_written fits]

end PlaceholderSet

/-- The checks of the numbering of a template agree: its indices are the numbers from zero on, each
at its own position, if they are the numbers below the expected count, and if there are as many as
expected. None are expected of a template without placeholders, and else one more than the largest
index. A description of the placeholders has the same placeholders. -/
theorem numbering_checks_agree (template : Text) :
    let set := PlaceholderSet.parse template
    (set.isWellFormed = true ↔ ∀ n, n ∈ set.indices ↔ n < set.expectedCount) ∧
    (set.isWellFormed = true ↔ set.indices.length = set.expectedCount) ∧
    (set.expectedCount = 0 ↔ set.indices = []) ∧
    set.expectedCount = set.indices.max?.elim 0 (· + 1) ∧
    PlaceholderSet.parse set.describe = set := by
  have fits := PlaceholderSet.fits_parse template
  exact ⟨fits.isWellFormed_iff_mem, fits.isWellFormed_iff_length, fits.expectedCount_eq_zero_iff,
    fits.expectedCount_eq, fits.parse_describe⟩

-- The largest index of all, whose count is the largest word.
example :
    (PlaceholderSet.parse "\x7b18446744073709551614\x7d".toList).expectedCount = 2 ^ 64 - 1 := by
  decide +kernel

end MessageKeys.Template
