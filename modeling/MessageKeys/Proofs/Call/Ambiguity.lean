import MessageKeys.Proofs.Diagnostic

/-!
Calls that fit templates with different numbers of placeholders.

How many values a call is taken to supply depends on how many are expected, so that one call may fit
two templates that expect different numbers. `Ambiguous` lists the arguments for which this is so: a
lone call of `join`, also as the only element of a lone array, and one value with an identifier
behind it, which may be a second value or an exception. In all other cases the supply is the same
whatever is expected (`suppliedByOne_cases`, `withoutException_of_length`), and at most one number
fits (`counts_ambiguous_iff`).
-/
namespace MessageKeys.Call

/-- Whether arguments are as many as a template expects. -/
def Accepts (expected : Nat) (arguments : List Expression) : Prop :=
  Diagnostic.isMismatch expected (supplied expected arguments) = false

instance (expected : Nat) (arguments : List Expression) : Decidable (Accepts expected arguments) :=
  inferInstanceAs (Decidable (_ = _))

/-- Arguments that supply `few` values if `few` are expected and `many` if `many` are. -/
inductive Ambiguous : (arguments : List Expression) → (few many : Nat) → Prop
  /-- A lone call of `join` supplies any number of values. -/
  | join {only : Expression} (filled : only.isEmpty = false) (joins : only.shape.isJoin = true)
      (few many : Nat) : Ambiguous [only] few many
  /-- So does one that is the only element of a lone array. -/
  | joinInArray {only element : Expression} (filled : only.isEmpty = false)
      (array : only.shape = .arrayLiteral [element]) (joins : element.shape.isJoin = true)
      (few many : Nat) : Ambiguous [only] few many
  /-- An identifier behind one value is an exception or a second value. -/
  | exception {value last : Expression} (filled : value.isEmpty = false)
      (single : value.shape.isArrayLiteral = false) (plain : value.shape.isJoin = false)
      (named : last.shape.isIdentifier = true) (written : last.isEmpty = false) :
      Ambiguous [value, last] 1 2

theorem accepts_iff {expected : Nat} {arguments : List Expression} :
    Accepts expected arguments ↔ supplied expected arguments = expected := by
  unfold Accepts Diagnostic.isMismatch
  split
  · next none => simp [none]
  · simp

/-- Whether a call is reported for the number of its values depends on its arguments alone. -/
theorem exists_count_mem_ofSite_iff {site : Site} {template : Text} :
    (∃ diagnostic ∈ Diagnostic.ofSite site template, diagnostic.kind = .count) ↔
      ¬Accepts (Template.PlaceholderSet.parse template).expectedCount site.arguments := by
  rw [Accepts, Bool.not_eq_false]
  constructor
  · rintro ⟨diagnostic, member, kind⟩
    rcases Diagnostic.mem_ofSite.mp member with ⟨_, rfl⟩ | ⟨mismatch, _⟩
    · cases kind
    · exact mismatch
  · intro mismatch
    exact ⟨_, Diagnostic.mem_ofSite.mpr (.inr ⟨mismatch, rfl⟩), rfl⟩

/-! ## Where the expected number decides -/

/-- A single argument supplies what is expected, or the same whatever is expected. -/
theorem suppliedByOne_cases {only : Expression} (filled : only.isEmpty = false) :
    (∀ few many, Ambiguous [only] few many) ∨
      ∀ few many, suppliedByOne few only = suppliedByOne many only := by
  unfold suppliedByOne
  split
  · next element array =>
    cases joins : element.shape.isJoin with
    | true => exact .inl (.joinInArray filled array joins)
    | false => exact .inr fun _ _ => rfl
  · exact .inr fun _ _ => rfl
  · cases joins : only.shape.isJoin with
    | true => exact .inl (.join filled joins)
    | false => exact .inr fun _ _ => rfl

/-- Of two arguments the second is taken off if it is an identifier behind an array, or behind
anything but a call of `join` where one value is expected. -/
theorem supplied_pair (expected : Nat) (value last : Expression) :
    supplied expected [value, last] =
      if last.shape.isIdentifier ∧ (value.shape.isArrayLiteral ∨
        (value.shape.isJoin = false ∧ expected = 1)) then countFilled [value]
      else countFilled [value, last] := by
  simp [supplied, withoutException, isTrailingException, apply_ite countFilled]

/-- From three arguments on, what is expected does not decide about an exception. -/
theorem withoutException_of_length {arguments : List Expression} (several : 3 ≤ arguments.length)
    (few many : Nat) : withoutException few arguments = withoutException many arguments := by
  have preceding : 2 ≤ arguments.length - 1 := by omega
  have same : ∀ before, isTrailingException few (arguments.length - 1) before =
      isTrailingException many (arguments.length - 1) before := by
    intro before
    simp [isTrailingException, preceding]
  unfold withoutException
  split <;> simp only [same]

theorem countFilled_single (argument : Expression) :
    countFilled [argument] = if argument.isEmpty then 0 else 1 := by
  cases blank : argument.isEmpty <;> simp [countFilled, blank]

theorem countFilled_pair (value last : Expression) :
    countFilled [value, last] = countFilled [value] + countFilled [last] := by
  rw [countFilled, ← List.singleton_append, List.countP_append]
  rfl

/-! ## Both ways -/

/-- In the known cases both numbers are supplied. -/
theorem Ambiguous.supplied_eq {arguments : List Expression} {few many : Nat}
    (ambiguous : Ambiguous arguments few many) :
    supplied few arguments = few ∧ supplied many arguments = many := by
  cases ambiguous with
  | @join only filled joins =>
    have any : ∀ expected, supplied expected [only] = expected := by
      intro expected
      cases shape : only.shape <;> simp_all [supplied, suppliedByOne, Shape.isJoin]
    exact ⟨any few, any many⟩
  | joinInArray filled array joins => simp [supplied, suppliedByOne, filled, array, joins]
  | exception filled single plain named written =>
    simp [supplied_pair, countFilled, filled, single, plain, named, written]

/-- Two arguments supply two different numbers in one case only: one if one value is expected, and
else two. -/
theorem ambiguous_pair {value last : Expression} {few many : Nat} (less : few < many)
    (here : supplied few [value, last] = few) (there : supplied many [value, last] = many) :
    Ambiguous [value, last] few many := by
  rw [supplied_pair, countFilled_pair] at here there
  by_cases decides : last.shape.isIdentifier = true ∧ value.shape.isArrayLiteral = false ∧
      value.shape.isJoin = false
  · obtain ⟨named, single, plain⟩ := decides
    simp only [named, single, plain, true_and, Bool.false_eq_true, false_or] at here there
    have first := countFilled_single value
    have second := countFilled_single last
    -- One of the numbers is one, for which the value counts alone, and the other is another.
    have counts : few = 1 ∧ many = 2 ∧ countFilled [value] = 1 ∧ countFilled [last] = 1 := by
      split at first <;> split at second <;> split at here <;> split at there <;> omega
    obtain ⟨rfl, rfl, filled, written⟩ := counts
    exact .exception (by simpa [filled] using first) single plain named
      (by simpa [written] using second)
  · have same : (last.shape.isIdentifier = true ∧ (value.shape.isArrayLiteral = true ∨
        value.shape.isJoin = false ∧ few = 1)) ↔ (last.shape.isIdentifier = true ∧
          (value.shape.isArrayLiteral = true ∨ value.shape.isJoin = false ∧ many = 1)) := by
      grind
    simp only [same] at here
    omega

/-- If two different numbers are supplied, then for one of the known reasons. -/
theorem ambiguous_of_supplied {arguments : List Expression} {few many : Nat} (less : few < many)
    (here : supplied few arguments = few) (there : supplied many arguments = many) :
    Ambiguous arguments few many := by
  -- A supply that does not depend on what is expected is not both numbers.
  have depends : supplied few arguments ≠ supplied many arguments := by
    rw [here, there]
    exact Nat.ne_of_lt less
  match arguments with
  | [] => exact absurd rfl depends
  | [only] =>
    cases blank : only.isEmpty with
    | true => simp [supplied, blank] at depends
    | false =>
      rcases suppliedByOne_cases blank with known | constant
      · exact known few many
      · simp [supplied, blank, constant few many] at depends
  | [value, last] => exact ambiguous_pair less here there
  | first :: second :: third :: more =>
    have several : 3 ≤ (first :: second :: third :: more).length := by simp
    rw [supplied, supplied, withoutException_of_length several few many] at depends
    · exact absurd rfl depends
    all_goals simp

/-- Arguments are as many as two different numbers expect exactly in the known cases, and a call is
reported for the number of its values exactly if its arguments are not as many as are expected. -/
theorem counts_ambiguous_iff (arguments : List Expression) :
    (∀ few many, few < many →
      ((Accepts few arguments ∧ Accepts many arguments) ↔ Ambiguous arguments few many)) ∧
    ∀ site : Site, site.arguments = arguments → ∀ template,
      (∃ diagnostic ∈ Diagnostic.ofSite site template, diagnostic.kind = .count) ↔
        ¬Accepts (Template.PlaceholderSet.parse template).expectedCount arguments := by
  refine ⟨?_, ?_⟩
  · intro few many less
    rw [accepts_iff, accepts_iff]
    constructor
    · rintro ⟨here, there⟩
      exact ambiguous_of_supplied less here there
    · exact Ambiguous.supplied_eq
  · rintro site rfl template
    exact exists_count_mem_ofSite_iff

/-- A literal and an identifier are two values, or a value and an exception. -/
example : (List.range 5).filter (fun expected => Accepts expected (expressions "\"A\", e".toList)) =
    [1, 2] := by decide +kernel

end MessageKeys.Call
