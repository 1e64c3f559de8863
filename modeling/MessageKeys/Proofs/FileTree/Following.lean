import MessageKeys.FileTree

/-!
Following a path, piece by piece.

From a directory, a piece that means nothing leads to the directory itself, two dots lead up, and a
name leads down to what stands there (`StepsTo`). A path can be followed exactly if its first piece
leads somewhere and the others can be followed from there (`follow_cons_eq_ok`). So what holds along
a path is proved for one step, and for the path by induction.
-/
namespace MessageKeys.FileTree

/-- Where one piece of a path leads from a directory. -/
inductive StepsTo (tree : FileTree) (route : Route) (piece : Text) : Route → Prop where
  | stay (silent : Path.isSilent piece = true) : StepsTo tree route piece route
  | up (loud : Path.isSilent piece = false) (up : piece = upwards) :
    StepsTo tree route piece (Route.above route)
  | down (loud : Path.isSilent piece = false) (down : piece ≠ upwards)
    (short : ¬nameLimit < Text.size piece) (node : Node)
    (found : tree.at? (route ++ [piece]) = some node) : StepsTo tree route piece (route ++ [piece])

section Following

variable {tree : FileTree} {route last : Route} {piece : Text} {rest : List Text}

theorem follow_cons_eq_ok :
    tree.follow route (piece :: rest) = .ok last ↔
      tree.at? route = some .directory ∧
        ∃ next, StepsTo tree route piece next ∧ tree.follow next rest = .ok last := by
  constructor
  · intro followed
    simp only [follow] at followed
    split at followed
    · cases followed
    · cases followed
    next directory =>
      refine ⟨directory, ?_⟩
      split at followed
      · next silent => exact ⟨_, .stay silent, followed⟩
      next loud =>
        rw [Bool.not_eq_true] at loud
        split at followed
        · next up => exact ⟨_, .up loud up, followed⟩
        next down =>
          split at followed
          · cases followed
          next short =>
            split at followed
            · cases followed
            next node found => exact ⟨_, .down loud down short node found, followed⟩
  · rintro ⟨directory, next, step, onward⟩
    cases step with
    | stay silent => simp [follow, directory, silent, onward]
    | up loud up =>
      subst up
      simp [follow, directory, loud, onward]
    | down loud down short node found => simp [follow, directory, loud, down, short, found, onward]

/-- A path leads to a directory from a directory only. -/
theorem directory_of_follow (followed : tree.follow route rest = .ok last)
    (directory : tree.at? last = some .directory) : tree.at? route = some .directory := by
  cases rest with
  | nil =>
    cases followed
    exact directory
  | cons piece more => exact (follow_cons_eq_ok.mp followed).1

theorem follow_append (tree : FileTree) (route : Route) (a b : List Text) :
    tree.follow route (a ++ b) = (tree.follow route a).bind fun next => tree.follow next b := by
  induction a generalizing route with
  | nil => rfl
  | cons piece rest ih =>
    simp only [List.cons_append, follow]
    cases tree.at? route with
    | none => rfl
    | some node =>
      cases node with
      | file content => rfl
      | directory =>
        dsimp only
        split
        · exact ih _
        · split
          · exact ih _
          · split
            · rfl
            · cases tree.at? (route ++ [piece]) with
              | none => rfl
              | some node => exact ih _

/-- A step to a name. -/
theorem follow_name (tree : FileTree) {route : Route} {name : Text} {node : Node}
    (directory : tree.at? route = some .directory) (loud : Path.isSilent name = false)
    (down : name ≠ upwards) (short : ¬nameLimit < Text.size name)
    (found : tree.at? (route ++ [name]) = some node) :
    tree.follow route [name] = .ok (route ++ [name]) :=
  follow_cons_eq_ok.mpr ⟨directory, _, .down loud down short node found, rfl⟩

/-- Pieces that mean nothing lead nowhere else. -/
theorem follow_silent (tree : FileTree) {route : Route} {silent : List Text}
    (directory : tree.at? route = some .directory)
    (allSilent : ∀ piece ∈ silent, Path.isSilent piece = true) :
    tree.follow route silent = .ok route := by
  induction silent with
  | nil => rfl
  | cons piece rest ih =>
    rw [List.forall_mem_cons] at allSilent
    exact follow_cons_eq_ok.mpr ⟨directory, _, .stay allSilent.1, ih allSilent.2⟩

/-- A step to a directory needs no directory to be made. -/
theorem makeDirectories_cons {next : Route} (step : StepsTo tree route piece next)
    (directory : tree.at? next = some .directory) (rest : List Text) :
    tree.makeDirectories route (piece :: rest) = tree.makeDirectories next rest := by
  cases step with
  | stay silent => rw [makeDirectories, if_pos silent]
  | up loud up => rw [makeDirectories, if_neg (by simp [loud]), if_pos up]
  | down loud down short node found =>
    rw [makeDirectories, if_neg (by simp [loud]), if_neg down, if_neg short, directory]

end Following

end MessageKeys.FileTree
