import MessageKeys.Text.Basic

/-!
Placeholders of message templates.

A placeholder is `{n}` with one or more digits. A brace that an odd run of backslashes precedes is a
literal brace. An index is kept if a count one larger than it fits 64 bits. `PlaceholderSet` holds
the distinct indices in increasing order, and `PlaceholderSet.mem_parse` says which they are.
-/
namespace MessageKeys.Template

/-- The index that a text states right after an opening brace. -/
def index? (afterBrace : Text) : Option Nat :=
  let digits := afterBrace.takeWhile Text.isDigit
  let value := Text.digitsValue digits
  if digits ≠ [] ∧ (afterBrace.dropWhile Text.isDigit).head? = some '}' ∧ value < Text.wordMax then
    some value
  else none

/-- The indices of all placeholders, left to right. `escaped` tells whether an odd run of
backslashes ends just before the text. -/
def occurrences (escaped : Bool) : Text → List Nat
  | [] => []
  | c :: rest =>
    (if c = '{' ∧ ¬escaped then (index? rest).toList else []) ++
      occurrences (c == '\\' && !escaped) rest

/-- Inserts a number into an increasing list, unless it is there. -/
def insertIndex (n : Nat) : List Nat → List Nat
  | [] => [n]
  | m :: rest =>
    if n < m then n :: m :: rest else if n = m then m :: rest else m :: insertIndex n rest

theorem mem_insertIndex {n x : Nat} {indices : List Nat} :
    x ∈ insertIndex n indices ↔ x = n ∨ x ∈ indices := by
  induction indices with
  | nil => simp [insertIndex]
  | cons m rest ih =>
    simp only [insertIndex]
    split
    · simp
    · split
      · rename_i same
        simp [same]
      · simp only [List.mem_cons, ih]
        constructor <;> rintro (h | h | h) <;> simp [h]

theorem insertIndex_increasing {n : Nat} {indices : List Nat} (h : indices.Pairwise (· < ·)) :
    (insertIndex n indices).Pairwise (· < ·) := by
  induction indices with
  | nil => simp [insertIndex]
  | cons m rest ih =>
    obtain ⟨first, later⟩ := List.pairwise_cons.mp h
    simp only [insertIndex]
    split
    · rename_i less
      refine List.pairwise_cons.mpr ⟨fun x member => ?_, h⟩
      rcases List.mem_cons.mp member with rfl | member
      · exact less
      · exact Nat.lt_trans less (first x member)
    · split
      · exact h
      · refine List.pairwise_cons.mpr ⟨fun x member => ?_, ih later⟩
        rcases mem_insertIndex.mp member with rfl | member
        · omega
        · exact first x member

/-- The distinct placeholder indices of a template, in increasing order. -/
structure PlaceholderSet where
  indices : List Nat
  increasing : indices.Pairwise (· < ·)
  deriving DecidableEq, Repr

namespace PlaceholderSet

/-- The set of the given indices. -/
def ofList : List Nat → PlaceholderSet
  | [] => ⟨[], List.Pairwise.nil⟩
  | n :: rest =>
    ⟨insertIndex n (ofList rest).indices, insertIndex_increasing (ofList rest).increasing⟩

theorem mem_ofList {x : Nat} {numbers : List Nat} : x ∈ (ofList numbers).indices ↔ x ∈ numbers := by
  induction numbers with
  | nil => simp [ofList]
  | cons n rest ih => simp [ofList, mem_insertIndex, ih]

/-- The placeholders of a template. -/
def parse (template : Text) : PlaceholderSet := ofList (occurrences false template)

theorem mem_parse {x : Nat} {template : Text} :
    x ∈ (parse template).indices ↔ x ∈ occurrences false template := mem_ofList

/-- Number of values the template expects: one more than the largest index, or the largest word
where that is less. -/
def expectedCount (set : PlaceholderSet) : Nat :=
  match set.indices.getLast? with
  | some largest => min (largest + 1) Text.wordMax
  | none => 0

/-- Whether the indices are exactly the numbers from zero on. -/
def isWellFormed (set : PlaceholderSet) : Bool :=
  set.indices.zipIdx.all fun (index, position) => position == index

/-- The placeholders as they are written in a template, with commas between them. -/
def describe (set : PlaceholderSet) : Text :=
  Text.join [',', ' '] (set.indices.map fun index => '{' :: Text.ofNat index ++ ['}'])

end PlaceholderSet

end MessageKeys.Template
