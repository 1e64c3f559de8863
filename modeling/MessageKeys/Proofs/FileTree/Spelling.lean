import MessageKeys.Proofs.FileTree.Following

/-!
Paths that are spelled differently.

Empty pieces and dots behind the start of a path mean nothing. Two paths with the same parts have
the same other pieces (`loudPieces_eq`), and a path that can be followed leads where these pieces
lead (`follow_loudPieces`). So files with the same parts in their paths are one file:
`readText_eq_of_parts`.
-/
namespace MessageKeys

namespace Path

/-- The pieces of a path that mean something wherever they stand. -/
def loudPieces (pieces : List Text) : List Text := pieces.filter fun piece => !isSilent piece

/-- The texts of the parts that are neither the root nor the current directory. -/
def stepTexts (parts : List PathPart) : List Text :=
  (parts.filter fun part => part ≠ .root ∧ part ≠ .current).map partText

theorem stepTexts_partAt? (atStart : Bool) (piece : Text) :
    stepTexts (partAt? atStart piece).toList = loudPieces [piece] := by
  unfold partAt? stepTexts loudPieces
  by_cases empty : piece = []
  · cases atStart <;> simp [empty, isSilent]
  by_cases dot : piece = ['.']
  · cases atStart <;> simp [dot, isSilent]
  by_cases up : piece = ['.', '.']
  · simp [up, isSilent, partText]
  · simp [empty, dot, up, isSilent, partText]

theorem stepTexts_partsFrom (atStart : Bool) (pieces : List Text) :
    stepTexts (partsFrom atStart pieces) = loudPieces pieces := by
  induction pieces generalizing atStart with
  | nil => rfl
  | cons piece more ih =>
    have first := stepTexts_partAt? atStart piece
    have rest := ih false
    unfold stepTexts loudPieces at first rest ⊢
    rw [partsFrom, List.filter_append, List.map_append, first, rest, ← List.filter_append]
    rfl

/-- The parts of a path determine its pieces but for those that mean nothing. -/
theorem loudPieces_eq {path other : Path} (same : parts path = parts other) :
    loudPieces (pieces path) = loudPieces (pieces other) := by
  rw [← stepTexts_partsFrom true, ← stepTexts_partsFrom true]
  exact congrArg stepTexts same

end Path

namespace FileTree

theorem follow_loudPieces {tree : FileTree} {route last : Route} {pieces : List Text}
    (followed : tree.follow route pieces = .ok last) :
    tree.follow route (Path.loudPieces pieces) = .ok last := by
  induction pieces generalizing route with
  | nil => exact followed
  | cons piece rest ih =>
    obtain ⟨here, next, step, onward⟩ := follow_cons_eq_ok.mp followed
    by_cases silent : Path.isSilent piece = true
    · rw [Path.loudPieces, List.filter_cons_of_neg (by simp [silent])]
      cases step with
      | stay _ => exact ih onward
      | up loud _ => simp [silent] at loud
      | down loud _ _ _ _ => simp [silent] at loud
    · rw [Path.loudPieces, List.filter_cons_of_pos (by simp [silent])]
      exact follow_cons_eq_ok.mpr ⟨here, next, step, ih onward⟩

theorem follow_of_resolve {tree : FileTree} {path : Path} {route : Route}
    (resolved : tree.resolve path = .ok route) :
    tree.follow [] (Path.loudPieces (Path.pieces path)) = .ok route := by
  unfold FileTree.resolve at resolved
  cases checked : checkPath path with
  | error cause => simp [checked, bind, Except.bind] at resolved
  | ok _ =>
    simp only [checked, bind, Except.bind] at resolved
    exact follow_loudPieces resolved

theorem resolve_of_isFile {tree : FileTree} {path : Path} (file : tree.isFile path = true) :
    ∃ route, tree.resolve path = .ok route := by
  unfold isFile node? at file
  cases resolved : tree.resolve path with
  | error cause => simp [resolved] at file
  | ok route => exact ⟨route, rfl⟩

/-- Files whose paths have the same parts are one file. -/
theorem readText_eq_of_parts {tree : FileTree} {path other : Path}
    (same : Path.parts path = Path.parts other) (here : tree.isFile path = true)
    (there : tree.isFile other = true) : tree.readText path = tree.readText other := by
  obtain ⟨route, resolved⟩ := resolve_of_isFile here
  obtain ⟨route', resolved'⟩ := resolve_of_isFile there
  have followed := follow_of_resolve resolved
  rw [Path.loudPieces_eq same, follow_of_resolve resolved', Except.ok.injEq] at followed
  rw [readText, readText, resolved, resolved', followed]

end FileTree

end MessageKeys
