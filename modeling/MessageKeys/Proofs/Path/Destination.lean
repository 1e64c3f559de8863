import Mathlib.Data.List.Infix
import MessageKeys.Proofs.FileTree.Saving

/-!
Where a path leads, by its text alone.

Dots and pairs of dots in a path are resolved one after another, without a look at any directory
(`destination`). One path lies in another when its destination does (`Destination.Within`), which
comparing parts does not tell in general. It does for paths that go on from a common base by names
only (`LeadsDown`): `prefix_of_within`.
-/
namespace MessageKeys

/-- Where a path leads: from the root or not, so many directories up, and down by names. -/
structure Destination where
  absolute : Bool
  ups : Nat
  names : List Text
  deriving DecidableEq, Repr

namespace Destination

/-- The directory that paths start from. -/
def start : Destination := ⟨false, 0, []⟩

/-- Where one more part leads. There is nothing above the root. -/
def step (place : Destination) : PathPart → Destination
  | .root => ⟨true, 0, []⟩
  | .current => place
  | .parent =>
    if place.names ≠ [] then { place with names := place.names.dropLast }
    else if place.absolute then place
    else { place with ups := place.ups + 1 }
  | .name text => { place with names := place.names ++ [text] }

/-- A place is a directory or lies below it. A directory that is reached by going up holds all the
directories that lie on the way. -/
def Within (place directory : Destination) : Prop :=
  place.absolute = directory.absolute ∧
    (directory.names = [] ∧ place.ups ≤ directory.ups ∨
      place.ups = directory.ups ∧ directory.names <+: place.names)

instance (place directory : Destination) : Decidable (Within place directory) :=
  inferInstanceAs (Decidable (_ ∧ _))

/-- Names lead down. -/
theorem foldl_step_names (place : Destination) (names : List Text) :
    (names.map PathPart.name).foldl step place =
      { place with names := place.names ++ names } := by
  induction names generalizing place with
  | nil => simp
  | cons name more ih =>
    rw [List.map_cons, List.foldl_cons, ih]
    simp [step]

end Destination

namespace Path

/-- A piece of a path that is a name. -/
def IsName (piece : Text) : Prop := piece ≠ [] ∧ piece ≠ ['.'] ∧ piece ≠ ['.', '.'] ∧ '/' ∉ piece

instance (piece : Text) : Decidable (IsName piece) := inferInstanceAs (Decidable (_ ∧ _))

/-- Where a path leads. -/
def destination (path : Path) : Destination := (parts path).foldl Destination.step .start

section Parts

variable {base path name : Path} {names : List Text}

theorem partsFrom_append (atStart : Bool) (front back : List Text) :
    partsFrom atStart (front ++ back) =
      partsFrom atStart front ++ partsFrom (atStart && front.isEmpty) back := by
  induction front generalizing atStart with
  | nil => simp [partsFrom]
  | cons piece more ih => simp [partsFrom, ih]

theorem parts_of_ne_nil (filled : path ≠ []) :
    parts path = partsFrom true (List.splitOn '/' path) := by
  rw [parts, pieces_of_ne_nil filled]

/-- What stands behind a slash goes on with the parts of a path. -/
theorem parts_append_slash (base rest : Text) :
    parts (base ++ '/' :: rest) =
      partsFrom true (List.splitOn '/' base) ++ partsFrom false (List.splitOn '/' rest) := by
  obtain ⟨first, more, pieces, _⟩ := Text.splitOn_eq_cons '/' base
  rw [parts_of_ne_nil (by simp), List.splitOn_append_cons_self, partsFrom_append, pieces]
  rfl

theorem parts_ne_nil (filled : path ≠ []) : parts path ≠ [] := by
  obtain ⟨first, more, pieces, _⟩ := Text.splitOn_eq_cons '/' path
  rw [parts_of_ne_nil filled, pieces, partsFrom]
  unfold partAt?
  by_cases empty : first = []
  · simp [empty]
  by_cases dot : first = ['.']
  · simp [dot]
  by_cases dots : first = ['.', '.']
  · simp [dots]
  · simp [empty, dot, dots]

theorem join_ne_nil (filled : base ≠ []) (path : Path) : join base path ≠ [] := by
  unfold join
  split
  · next absolute =>
    rintro rfl
    simp [isAbsolute, filled] at absolute
  · split <;> simp [filled]

/-- Joining a relative path goes on with its pieces. -/
theorem parts_join (filled : base ≠ []) (relative : isAbsolute path = false) :
    parts (join base path) = parts base ++ partsFrom false (List.splitOn '/' path) := by
  have goesOn : ¬(isAbsolute path = true ∨ base = []) := by simp [relative, filled]
  rw [join, if_neg goesOn]
  by_cases slash : base.getLast? = some '/'
  · obtain ⟨front, rfl⟩ := List.getLast?_eq_some_iff.mp slash
    have silent : partsFrom false (List.splitOn '/' []) = [] := by simp [partsFrom, partAt?]
    rw [if_pos slash, List.append_assoc, List.singleton_append, parts_append_slash,
      parts_append_slash, silent, List.append_nil]
  · rw [if_neg slash, parts_append_slash, ← parts_of_ne_nil filled]

theorem isAbsolute_of_not_mem (single : '/' ∉ name) : isAbsolute name = false := by
  cases name with
  | nil => rfl
  | cons c more =>
    have other : c ≠ '/' := by
      rintro rfl
      simp at single
    simp [isAbsolute, other]

/-- A slash at the end makes no difference to what is joined. -/
theorem join_join_nil (path name : Path) : join (join path []) name = join path name := by
  by_cases empty : path = []
  · simp [join, empty, isAbsolute]
  by_cases slash : path.getLast? = some '/'
  · simp [join, empty, isAbsolute, slash]
  · simp [join, empty, isAbsolute, slash]

/-- The same stands in front of all relative paths that are joined to a base. -/
theorem exists_lead (base : Path) :
    ∃ lead : Text, ∀ path : Path, isAbsolute path = false → join base path = lead ++ path := by
  by_cases empty : base = []
  · exact ⟨[], fun path relative => by simp [join, empty]⟩
  by_cases slash : base.getLast? = some '/'
  · exact ⟨base, fun path relative => by simp [join, relative, empty, slash]⟩
  · exact ⟨base ++ ['/'], fun path relative => by simp [join, relative, empty, slash]⟩

/-- A name and what stands behind it can be joined one after the other. -/
theorem join_name_append (base : Path) (named : IsName name) {rest : Path}
    (relative : isAbsolute rest = false) :
    join base (name ++ '/' :: rest) = join (join base name) rest := by
  obtain ⟨filled, _, _, single⟩ := named
  obtain ⟨lead, joined⟩ := exists_lead base
  have whole : isAbsolute (name ++ '/' :: rest) = false := by
    rw [isAbsolute, List.head?_append_of_ne_nil _ filled]
    exact isAbsolute_of_not_mem single
  have last : (lead ++ name).getLast? ≠ some '/' := by
    rw [List.getLast?_append_of_ne_nil _ filled]
    intro slash
    exact single (List.mem_of_getLast? slash)
  rw [joined _ whole, joined _ (isAbsolute_of_not_mem single), join,
    if_neg (by simp [relative, filled]), if_neg last, List.append_assoc]

/-- Names with slashes between them are joined one after another. -/
theorem join_names_append (base : Path) (some : names ≠ []) (named : ∀ name ∈ names, IsName name)
    {rest : Path} (relative : isAbsolute rest = false) :
    join base (Text.join ['/'] names ++ '/' :: rest) = join (names.foldl join base) rest := by
  fun_induction Text.join ['/'] names generalizing base with
  | case1 => exact absurd rfl some
  | case2 last =>
    rw [List.forall_mem_singleton] at named
    exact join_name_append base named relative
  | case3 first second more ih =>
    rw [List.forall_mem_cons] at named
    obtain ⟨filled, _, _, single⟩ := named.2 second (by simp)
    have within : isAbsolute (Text.join ['/'] (second :: more) ++ '/' :: rest) = false := by
      rw [Text.join_cons_flatMap, List.append_assoc, isAbsolute,
        List.head?_append_of_ne_nil _ filled]
      exact isAbsolute_of_not_mem single
    rw [List.foldl_cons, ← ih (join base first) (by simp) named.2,
      ← join_name_append base named.1 within]
    simp

theorem partsFrom_name (named : IsName name) (atStart : Bool) :
    partsFrom atStart (List.splitOn '/' name) = [.name name] := by
  obtain ⟨filled, dot, dots, single⟩ := named
  rw [List.splitOn_eq_singleton single]
  simp [partsFrom, partAt?, filled, dot, dots]

theorem parts_join_name (base : Path) (named : IsName name) :
    parts (join base name) = parts base ++ [.name name] := by
  by_cases empty : base = []
  · subst empty
    have same : join [] name = name := by simp [join]
    rw [same, parts_of_ne_nil named.1, partsFrom_name named]
    rfl
  · rw [parts_join empty (isAbsolute_of_not_mem named.2.2.2), partsFrom_name named]

/-- Names that are joined one after another are the parts behind the base. -/
theorem parts_foldl_join (base : Path) (named : ∀ name ∈ names, IsName name) :
    parts (names.foldl join base) = parts base ++ names.map .name := by
  induction names generalizing base with
  | nil => simp
  | cons name more ih =>
    rw [List.forall_mem_cons] at named
    rw [List.foldl_cons, ih _ named.2, parts_join_name base named.1, List.append_assoc]
    rfl

end Parts

/-- The path goes on from the base by names only. -/
def LeadsDown (base path : Path) : Prop :=
  ∃ names : List Text, parts path = parts base ++ names.map .name

section Containment

variable {base path directory : Path}

theorem LeadsDown.foldl_join (leads : LeadsDown base path) {names : List Text}
    (named : ∀ name ∈ names, IsName name) : LeadsDown base (names.foldl join path) := by
  obtain ⟨front, parts_path⟩ := leads
  refine ⟨front ++ names, ?_⟩
  rw [parts_foldl_join path named, parts_path, List.map_append, List.append_assoc]

/-- Whether a path lies in a directory is told by its first parts. -/
theorem stripParts?_isSome_iff (atStart : Bool) (front : List PathPart) (pieces : List Text) :
    (stripParts? atStart front pieces).isSome = true ↔ front <+: partsFrom atStart pieces := by
  induction pieces generalizing atStart front with
  | nil => cases front <;> simp [stripParts?, partsFrom]
  | cons piece rest ih =>
    cases front with
    | nil => simp [stripParts?]
    | cons part more =>
      rw [stripParts?, partsFrom]
      cases meaning : partAt? atStart piece with
      | none => simp [ih]
      | some here =>
        by_cases same : here = part
        · simp [same, ih]
        · simp [same, Ne.symm same]

theorem liesIn_iff : liesIn directory path = true ↔ parts directory <+: parts path :=
  stripParts?_isSome_iff true _ _

theorem destination_of_parts {names : List Text}
    (same : parts path = parts base ++ names.map .name) :
    destination path =
      { destination base with names := (destination base).names ++ names } := by
  rw [destination, same, List.foldl_append, Destination.foldl_step_names]
  rfl

/-- Among paths that go on from one base by names, the parts tell what lies in what. -/
theorem prefix_of_within (here : LeadsDown base path) (there : LeadsDown base directory)
    (within : (destination path).Within (destination directory)) :
    parts directory <+: parts path := by
  obtain ⟨names, parts_path⟩ := here
  obtain ⟨names', parts_directory⟩ := there
  rw [destination_of_parts parts_path, destination_of_parts parts_directory] at within
  have down : names' <+: names := by
    rcases within.2 with ⟨nothing, _⟩ | ⟨_, begins⟩
    · have none : names' = [] := (List.append_eq_nil_iff.mp nothing).2
      rw [none]
      exact List.nil_prefix
    · exact (List.prefix_append_right_inj _).mp begins
  rw [parts_path, parts_directory]
  exact (List.prefix_append_right_inj _).mpr (down.map _)

/-- Paths that go on from one base by names and lead to one place go on by the same names. -/
theorem names_eq_of_destination {other : Path} {names names' : List Text}
    (here : parts path = parts base ++ names.map .name)
    (there : parts other = parts base ++ names'.map .name)
    (same : destination path = destination other) : names = names' := by
  rw [destination_of_parts here, destination_of_parts there, Destination.mk.injEq] at same
  exact List.append_cancel_left same.2.2

end Containment

end Path

/-- A path with a slash at its end leads to a directory. -/
theorem FileTree.directory_of_resolve_slash (tree : FileTree) {path : Path} {route : Route}
    (slash : Path.join path [] ≠ path) (resolved : tree.resolve (Path.join path []) = .ok route) :
    tree.at? route = some .directory := by
  have ends : Path.join path [] = path ++ ['/'] := by
    unfold Path.join at slash ⊢
    split
    · next empty => simp_all [Path.isAbsolute]
    · split
      · next last => simp_all
      · rfl
  rw [ends, FileTree.resolve] at resolved
  cases checked : FileTree.checkPath (path ++ ['/']) with
  | error cause => simp [checked, bind, Except.bind] at resolved
  | ok _ =>
    simp only [checked, bind, Except.bind] at resolved
    rw [Path.pieces_of_ne_nil (by simp), List.splitOn_append_cons_self, FileTree.follow_append]
      at resolved
    cases front : tree.follow [] (List.splitOn '/' path) with
    | error cause => simp [front, Except.bind] at resolved
    | ok reached =>
      simp only [front, Except.bind, List.splitOn_nil] at resolved
      obtain ⟨directory, next, step, done⟩ := FileTree.follow_cons_eq_ok.mp resolved
      cases done
      cases step with
      | stay _ => exact directory
      | up _ up => cases up
      | down loud _ _ _ _ => cases loud

end MessageKeys
