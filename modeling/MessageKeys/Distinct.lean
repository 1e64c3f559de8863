/-!
Lists without repetitions: of several items with one key the first stays.
-/
namespace MessageKeys

/-- The items whose key is not among those of earlier items or in `seen`. -/
def distinctBy {α β : Type} [BEq β] (key : α → β) (seen : List β) : List α → List α
  | [] => []
  | item :: more =>
    if seen.contains (key item) then distinctBy key seen more
    else item :: distinctBy key (key item :: seen) more

/-- The items of a list, each once. -/
def distinct {α : Type} [BEq α] (items : List α) : List α := distinctBy id [] items

end MessageKeys
