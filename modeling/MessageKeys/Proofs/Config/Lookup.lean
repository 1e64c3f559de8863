import Mathlib.Data.Nat.Find
import MessageKeys.Config.Load
import MessageKeys.Proofs.FileTree.Following
import MessageKeys.Proofs.Path.Parent

/-!
Which configuration file holds for a directory.

The directories above a path are tried from the nearest on. Each has a configuration file, or a
repository begins there, or the search goes on with its parent (`find?_eq`). So a directory with a
configuration file decides if none before it is marked (`find?_of_foundAt`), and one where a
repository begins if no configuration file comes up to it (`find?_of_stoppedAt`). One of the two is
there, or no directory has a configuration file at all: `lookup_stops_at_nearest`.
-/
namespace MessageKeys

open MessageKeys.Path

/-! ## What a directory holds -/

namespace FileTree

/-- The path of a directory leads to one in which something of this name stands. The path that is
tried is not refused for its length or a character in it. -/
def Holds (tree : FileTree) (directory : Path) (name : Text) : Prop :=
  checkPath (join directory name) = .ok () ∧
    ∃ route, tree.follow [] (pieces directory) = .ok route ∧ tree.at? route = some .directory ∧
      (tree.at? (route ++ [name])).isSome = true

section Holds

variable {tree : FileTree} {directory : Path} {name : Text}

theorem follow_silent_cons (tree : FileTree) (route : Route) {silent piece : Text}
    (isSilent : isSilent silent = true) (rest : List Text) :
    tree.follow route (silent :: piece :: rest) = tree.follow route (piece :: rest) := by
  rw [follow, follow]
  cases tree.at? route with
  | none => rfl
  | some node =>
    cases node with
    | file content => rfl
    | directory => simp [isSilent]

/-- A name that is joined is followed from where the directory's path leads. -/
theorem follow_join (tree : FileTree) (directory : Path) (named : IsName name) :
    tree.follow [] (pieces (join directory name)) =
      (tree.follow [] (pieces directory)).bind fun route => tree.follow route [name] := by
  obtain ⟨filled, _, _, single⟩ := named
  have relative := isAbsolute_of_not_mem single
  by_cases empty : directory = []
  · have same : join [] name = name := by simp [join]
    rw [empty, same, pieces_of_ne_nil filled, List.splitOn_eq_singleton single]
    rfl
  · rw [pieces_of_ne_nil (join_ne_nil empty name), pieces_of_ne_nil empty, join,
      if_neg (by simp [relative, empty]), ← follow_append]
    split
    · next slash =>
      obtain ⟨front, rfl⟩ := List.getLast?_eq_some_iff.mp slash
      -- The piece behind the last slash is empty and means nothing.
      rw [List.append_assoc, List.singleton_append, List.splitOn_append_cons_self,
        List.splitOn_append_cons_self, List.splitOn_nil, List.splitOn_eq_singleton single,
        List.append_assoc, follow_append, follow_append tree]
      congr 1
      funext route
      exact (follow_silent_cons tree route rfl []).symm
    · rw [List.splitOn_append_cons_self, List.splitOn_eq_singleton single]

/-- What is joined to the path of a directory exists if the directory holds it. -/
theorem pathExists_join_iff (named : IsName name) (short : Text.size name ≤ nameLimit) :
    tree.pathExists (join directory name) = true ↔ tree.Holds directory name := by
  have loud : isSilent name = false := by simp [isSilent, named.1, named.2.1]
  have followed := follow_join tree directory named
  rw [pathExists, node?, resolve, Holds]
  cases checkPath (join directory name) with
  | error cause => simp [bind, Except.bind]
  | ok _ =>
    simp only [bind, Except.bind, followed, true_and]
    cases tree.follow [] (pieces directory) with
    | error cause => simp
    | ok route =>
      cases here : tree.at? route with
      | none => simp [follow, here]
      | some node =>
        cases node with
        | file content => simp [follow, here]
        | directory =>
          have further : ¬nameLimit < Text.size name := by omega
          cases there : tree.at? (route ++ [name]) with
          | none => simp [follow, here, loud, named.2.2.1, upwards, further, there]
          | some node => simp [follow, here, loud, named.2.2.1, upwards, further, there]

end Holds

end FileTree

namespace Config

section Lookup

variable {tree : FileTree} {start directory : Path} {depth : Nat}

/-- A configuration file stands in a directory. -/
def IsConfigured (tree : FileTree) (directory : Path) : Prop := tree.Holds directory fileName

/-- A repository begins in a directory. -/
def IsRepository (tree : FileTree) (directory : Path) : Prop :=
  tree.Holds directory repositoryMark

/-- A directory above the start is configured, and none before it is, nor begins a repository there.
-/
structure FoundAt (tree : FileTree) (start : Path) (depth : Nat) (directory : Path) : Prop where
  above : above? depth start = some directory
  configured : IsConfigured tree directory
  unmarked : ∀ nearer < depth, ∀ between, above? nearer start = some between →
    ¬IsConfigured tree between ∧ ¬IsRepository tree between

/-- A repository begins in a directory above the start, and up to it none is configured. -/
structure StoppedAt (tree : FileTree) (start : Path) (depth : Nat) (directory : Path) : Prop where
  above : above? depth start = some directory
  repository : IsRepository tree directory
  unconfigured : ∀ nearer ≤ depth, ∀ between, above? nearer start = some between →
    ¬IsConfigured tree between

/-! ## One directory after another -/

/-- More fuel than the path has characters makes no difference. -/
theorem ancestorsFrom_eq {fuel other : Nat} {path : Path} (enough : path.length < fuel)
    (also : path.length < other) : ancestorsFrom fuel path = ancestorsFrom other path := by
  induction fuel generalizing path other with
  | zero => cases enough
  | succ fuel ih =>
    obtain ⟨less, rfl⟩ := Nat.exists_eq_add_of_lt also
    rw [ancestorsFrom, ancestorsFrom]
    cases parent : parent? path with
    | none => rfl
    | some above =>
      have shorter := length_lt_of_parent? parent
      exact congrArg (path :: ·) (ih (by omega) (by omega))

theorem ancestors_eq (path : Path) :
    ancestors path = path :: ((parent? path).map ancestors).getD [] := by
  rw [ancestors, ancestorsFrom]
  cases parent : parent? path with
  | none => rfl
  | some above =>
    have shorter := length_lt_of_parent? parent
    exact congrArg (path :: ·) (ancestorsFrom_eq shorter (Nat.lt_succ_self _))

/-- A directory that is neither configured nor begins a repository leaves it to its parent. -/
theorem find?_eq (tree : FileTree) (start : Path) :
    find? tree start =
      if tree.pathExists (join start fileName) then some (join start fileName)
      else if tree.pathExists (join start repositoryMark) then none
      else (parent? start).bind (find? tree) := by
  rw [find?, ancestors_eq, nearest?]
  cases parent? start <;> rfl

theorem isConfigured_iff :
    tree.pathExists (join directory fileName) = true ↔ IsConfigured tree directory :=
  FileTree.pathExists_join_iff (by decide) (by decide)

theorem isRepository_iff :
    tree.pathExists (join directory repositoryMark) = true ↔ IsRepository tree directory :=
  FileTree.pathExists_join_iff (by decide) (by decide)

theorem find?_of_foundAt (found : FoundAt tree start depth directory) :
    find? tree start = some (join directory fileName) := by
  induction depth generalizing start with
  | zero =>
    cases found.above
    rw [find?_eq, if_pos (isConfigured_iff.mpr found.configured)]
  | succ depth ih =>
    obtain ⟨above, parent, further⟩ := Option.bind_eq_some_iff.mp found.above
    obtain ⟨unconfigured, noRepository⟩ := found.unmarked 0 (Nat.succ_pos depth) start rfl
    have later : FoundAt tree above depth directory := by
      refine ⟨further, found.configured, ?_⟩
      intro nearer less between taken
      exact found.unmarked (nearer + 1) (Nat.succ_lt_succ less) between
        (Option.bind_eq_some_iff.mpr ⟨above, parent, taken⟩)
    rw [find?_eq, if_neg (mt isConfigured_iff.mp unconfigured),
      if_neg (mt isRepository_iff.mp noRepository), parent, Option.bind_some, ih later]

theorem find?_of_stoppedAt (stopped : StoppedAt tree start depth directory) :
    find? tree start = none := by
  induction depth generalizing start with
  | zero =>
    cases stopped.above
    have unconfigured := stopped.unconfigured 0 (Nat.le_refl 0) _ rfl
    rw [find?_eq, if_neg (mt isConfigured_iff.mp unconfigured),
      if_pos (isRepository_iff.mpr stopped.repository)]
  | succ depth ih =>
    obtain ⟨above, parent, further⟩ := Option.bind_eq_some_iff.mp stopped.above
    have unconfigured := stopped.unconfigured 0 (Nat.zero_le _) start rfl
    have later : StoppedAt tree above depth directory := by
      refine ⟨further, stopped.repository, ?_⟩
      intro nearer upTo between taken
      exact stopped.unconfigured (nearer + 1) (Nat.succ_le_succ upTo) between
        (Option.bind_eq_some_iff.mpr ⟨above, parent, taken⟩)
    rw [find?_eq, if_neg (mt isConfigured_iff.mp unconfigured), parent, Option.bind_some, ih later,
      ite_self]

theorem find?_of_unconfigured {start : Path}
    (unconfigured : ∀ depth directory, above? depth start = some directory →
      ¬IsConfigured tree directory) : find? tree start = none := by
  rw [find?_eq, if_neg (mt isConfigured_iff.mp (unconfigured 0 start rfl))]
  split
  · rfl
  · cases parent : parent? start with
    | none => rfl
    | some above =>
      have shorter := length_lt_of_parent? parent
      rw [Option.bind_some]
      apply find?_of_unconfigured
      intro depth directory taken
      exact unconfigured (depth + 1) directory
        (Option.bind_eq_some_iff.mpr ⟨above, parent, taken⟩)
termination_by start.length

/-! ## The nearest mark -/

/-- The first configured directory is found, unless a repository begins before it. -/
theorem found_or_stopped (tree : FileTree) (start : Path) :
    (∃ depth directory, FoundAt tree start depth directory) ∨
      (∃ depth directory, StoppedAt tree start depth directory) ∨
      ∀ depth directory, above? depth start = some directory → ¬IsConfigured tree directory := by
  classical
  by_cases candidate : ∃ depth directory, above? depth start = some directory ∧
      IsConfigured tree directory
  · obtain ⟨directory, above, configured⟩ := Nat.find_spec candidate
    have unconfigured : ∀ nearer < Nat.find candidate, ∀ between,
        above? nearer start = some between → ¬IsConfigured tree between := by
      intro nearer less between taken configured
      exact Nat.find_min candidate less ⟨between, taken, configured⟩
    by_cases stop : ∃ nearer < Nat.find candidate, ∃ between,
        above? nearer start = some between ∧ IsRepository tree between
    · obtain ⟨nearer, less, between, taken, repository⟩ := stop
      refine .inr (.inl ⟨nearer, between, taken, repository, ?_⟩)
      intro other upTo
      exact unconfigured other (Nat.lt_of_le_of_lt upTo less)
    · refine .inl ⟨_, directory, above, configured, ?_⟩
      intro nearer less between taken
      exact ⟨unconfigured nearer less between taken,
        fun repository => stop ⟨nearer, less, between, taken, repository⟩⟩
  · refine .inr (.inr ?_)
    intro depth directory taken configured
    exact candidate ⟨depth, directory, taken, configured⟩

/-- The directories above the start are those that are left when its parts are taken off from the
end, so many at most. The configuration file of the first of them that has one is found, whether or
not a repository begins there too. None is found if a repository begins before, or if none of them
has one. -/
theorem lookup_stops_at_nearest (tree : FileTree) (start : Path) :
    (∀ depth directory, above? depth start = some directory →
      depth ≤ (parts start).length ∧
        parts directory = (parts start).take ((parts start).length - depth) ∧
        (parent? directory = none ↔ directory = [] ∨ parts directory = [.root])) ∧
    (∀ file, find? tree start = some file ↔
      ∃ depth directory, FoundAt tree start depth directory ∧ file = join directory fileName) ∧
    (find? tree start = none ↔
      (∃ depth directory, StoppedAt tree start depth directory) ∨
        ∀ depth directory, above? depth start = some directory →
          ¬IsConfigured tree directory) := by
  have decided := found_or_stopped tree start
  refine ⟨?_, ?_, ?_⟩
  · intro depth directory taken
    obtain ⟨bound, front, _⟩ := parts_of_above? taken
    exact ⟨bound, front, parent?_eq_none_iff directory⟩
  · intro file
    constructor
    · intro search
      rcases decided with ⟨depth, directory, found⟩ | ⟨_, _, stopped⟩ | unconfigured
      · rw [find?_of_foundAt found] at search
        exact ⟨depth, directory, found, (Option.some.inj search).symm⟩
      · rw [find?_of_stoppedAt stopped] at search
        cases search
      · rw [find?_of_unconfigured unconfigured] at search
        cases search
    · rintro ⟨depth, directory, found, rfl⟩
      exact find?_of_foundAt found
  · constructor
    · intro search
      refine decided.resolve_left ?_
      rintro ⟨depth, directory, found⟩
      rw [find?_of_foundAt found] at search
      cases search
    · rintro (⟨_, _, stopped⟩ | unconfigured)
      · exact find?_of_stoppedAt stopped
      · exact find?_of_unconfigured unconfigured

end Lookup

/-- A configured repository, and in it one that is not, with a directory in each. -/
def repositories : FileTree :=
  ⟨[([fileName], .file (.text [])), ([repositoryMark], .directory), ([['a']], .directory),
    ([['b']], .directory), ([['b'], repositoryMark], .directory), ([['b'], ['c']], .directory)]⟩

example : find? repositories "./a/".toList = some "./.msgkeyrc.json".toList ∧
    find? repositories "b/c".toList = none := by
  decide +kernel

end Config

end MessageKeys
