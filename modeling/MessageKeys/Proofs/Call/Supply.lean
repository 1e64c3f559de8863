import MessageKeys.Proofs.Call.Rendering
import MessageKeys.Call.Supply

/-!
What single arguments supply.

The arguments of a call, and the elements of an array initializer at any depth, are trimmed texts
with the shapes of these texts (`classified_expressions`, `classified_elements`). So it can be told
from the texts alone what a lone array initializer supplies (`supplied_arrayLiteral`).
-/
namespace MessageKeys.Call

open Text

/-- Trimmed, and with the shape of its text. -/
structure Expression.IsClassified (argument : Expression) : Prop where
  trimmed : IsTrimmed argument.text
  shaped : argument.shape = .ofText argument.text

theorem classified_expressions {list : Text} :
    ∀ argument ∈ expressions list, Expression.IsClassified argument := by
  intro argument member
  obtain ⟨piece, inside, rfl⟩ := List.mem_map.mp member
  obtain ⟨segment, _, trims⟩ := exists_of_mem_pieces inside
  refine ⟨?_, rfl⟩
  rw [Expression.ofPiece, trims]
  exact isTrimmed_trim segment

theorem classified_elements {text : Text} {elements : List Expression}
    (shape : Shape.ofText text = .arrayLiteral elements) :
    ∀ element ∈ elements, Expression.IsClassified element := by
  rw [Shape.ofText_eq] at shape
  split at shape
  · cases shape
  · split at shape
    · cases shape
      exact classified_expressions
    · split at shape
      · cases shape
      · split at shape <;> cases shape

/-- An argument is empty only if it has no text at all. -/
theorem Expression.IsClassified.isEmpty_iff {argument : Expression}
    (classified : argument.IsClassified) : argument.isEmpty = true ↔ argument.text = [] := by
  rw [Expression.isEmpty, classified.trimmed, List.isEmpty_iff]

theorem countFilled_eq_length {arguments : List Expression}
    (classified : ∀ argument ∈ arguments, argument.IsClassified)
    (filled : ∀ argument ∈ arguments, argument.text ≠ []) :
    countFilled arguments = arguments.length := by
  rw [countFilled, List.countP_eq_length]
  intro argument member
  have inked : ¬argument.isEmpty = true := by
    rw [(classified argument member).isEmpty_iff]
    exact filled argument member
  simpa using inked

theorem ofText_nil : Shape.ofText [] = .other := by
  rw [Shape.ofText_eq]
  rfl

/-- A lone argument of a certain shape is not empty, so that its shape decides. -/
theorem supplied_single {argument : Expression} (classified : argument.IsClassified)
    (certain : argument.shape ≠ .other) (expected : Nat) :
    supplied expected [argument] = suppliedByOne expected argument := by
  have filled : ¬argument.isEmpty = true := by
    rw [classified.isEmpty_iff]
    intro empty
    rw [classified.shaped, empty] at certain
    exact certain ofText_nil
  rw [supplied, if_neg filled]

/-- A lone call of `join` supplies what is expected. -/
theorem supplied_join {argument : Expression} (classified : argument.IsClassified)
    (shape : argument.shape = .memberCall Shape.joinName) (expected : Nat) :
    supplied expected [argument] = expected := by
  have certain : argument.shape ≠ .other := by
    rw [shape]
    intro same
    cases same
  rw [supplied_single classified certain, suppliedByOne, shape]
  rfl

/-- Whether these are the texts of a single argument, which is a call of `join`. -/
def isLoneJoin : List Text → Bool
  | [only] => (Shape.ofText only).isJoin
  | _ => false

/-- A lone array initializer supplies its elements, but what is expected if a call of `join` is the
only one. -/
theorem supplied_arrayLiteral {argument : Expression} {elements : List Expression}
    (classified : argument.IsClassified) (shape : argument.shape = .arrayLiteral elements)
    (expected : Nat) :
    supplied expected [argument] =
      if isLoneJoin (elements.map (·.text)) then expected else countFilled elements := by
  have certain : argument.shape ≠ .other := by
    rw [shape]
    intro same
    cases same
  have each := classified_elements (classified.shaped.symm.trans shape)
  rw [supplied_single classified certain, suppliedByOne, shape]
  match elements with
  | [] => rfl
  | [element] =>
    have shaped := (each element List.mem_cons_self).shaped
    simp only [List.map_cons, List.map_nil, isLoneJoin, shaped]
  | first :: second :: more => rfl

end MessageKeys.Call
