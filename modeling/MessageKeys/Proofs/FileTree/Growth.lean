import MessageKeys.Proofs.FileTree.Frame

/-!
Saving in a tree that lacks some of another one's directories.

Suppose that a path leads to a file in some tree, and that a second tree has fewer routes. Then the
directories on the way can be made in the second tree (`makeDirectories_of_keeps`), none of them is
one too many, and a save of that path succeeds there and puts the file in the same place
(`save_of_keeps`). Which routes were made earlier, for other files, does not matter.
-/
namespace MessageKeys.FileTree

/-- The route of what a path names, if it names anything. -/
def place? (tree : FileTree) (path : Path) : Option Route := (tree.resolve path).toOption

theorem place?_eq_some {tree : FileTree} {path : Path} {route : Route} :
    tree.place? path = some route ↔ tree.resolve path = .ok route := by
  unfold place?
  cases tree.resolve path with
  | error cause => simp [Except.toOption]
  | ok other => simp [Except.toOption]

theorem Keeps.place? {tree left : FileTree} (keeps : Keeps tree left) {path : Path} {route : Route}
    (place : tree.place? path = some route) : left.place? path = some route :=
  place?_eq_some.mpr (keeps.resolve (place?_eq_some.mp place))

/-- A path that exists has a place where something stands. -/
theorem exists_place_of_pathExists {tree : FileTree} {path : Path}
    (there : tree.pathExists path = true) :
    ∃ route node, tree.place? path = some route ∧ tree.at? route = some node := by
  unfold pathExists node? at there
  cases resolved : tree.resolve path with
  | error cause => simp [resolved] at there
  | ok route =>
    simp only [resolved] at there
    obtain ⟨node, found⟩ := Option.isSome_iff_exists.mp there
    exact ⟨route, node, place?_eq_some.mpr resolved, found⟩

theorem pathExists_of_at? {tree : FileTree} {path : Path} {route : Route} {node : Node}
    (place : tree.place? path = some route) (found : tree.at? route = some node) :
    tree.pathExists path = true := by
  simp [pathExists, node?, place?_eq_some.mp place, found]

theorem Keeps.pathExists {tree left : FileTree} (keeps : Keeps tree left) {path : Path}
    (there : tree.pathExists path = true) : left.pathExists path = true := by
  obtain ⟨route, node, place, found⟩ := exists_place_of_pathExists there
  obtain ⟨other, stands, _⟩ := keeps route node found
  exact pathExists_of_at? (keeps.place? place) stands

theorem Keeps.settled {tree left : FileTree} (keeps : Keeps tree left) {route : Route}
    (settled : Settled tree route) : Settled left route :=
  fun front inside proper => keeps.directory (settled front inside proper)

/-- Nothing takes the place of a file but a file, as far as the larger tree tells. -/
theorem Keeps.at?_ne_directory {tree left : FileTree} (keeps : Keeps tree left) {route : Route}
    {content : Content} (stands : left.at? route = some (.file content)) :
    tree.at? route ≠ some .directory := by
  intro directory
  rw [keeps.directory directory] at stands
  cases stands

/-- A node that the larger tree has as well may be put into the smaller one. -/
theorem keeps_of_at? {tree left : FileTree} (keeps : Keeps tree left) {route : Route}
    {node other : Node} (inside : Route.isAbove route = false)
    (stands : left.at? route = some other) (same : other.isDirectory = node.isDirectory) :
    Keeps (tree.put route node) left := by
  intro place found standing
  rw [at?_put tree inside] at standing
  split at standing
  · next here =>
    cases standing
    exact ⟨other, here ▸ stands, same⟩
  · exact keeps place found standing

/-- One step to a directory of a larger tree: the directory is there or can be made. -/
theorem makeDirectories_step {tree left : FileTree} {route next : Route} {piece : Text}
    (keeps : Keeps tree left) (settled : Settled tree route)
    (here : tree.at? route = some .directory) (step : StepsTo left route piece next)
    (directory : left.at? next = some .directory) :
    ∃ grown, (∀ rest, tree.makeDirectories route (piece :: rest) =
        grown.makeDirectories next rest) ∧ Keeps tree grown ∧ Keeps grown left ∧
      StepsTo grown route piece next ∧ grown.at? next = some .directory := by
  have there : ∀ {next}, StepsTo tree route piece next → tree.at? next = some .directory →
      ∃ grown, (∀ rest, tree.makeDirectories route (piece :: rest) =
          grown.makeDirectories next rest) ∧ Keeps tree grown ∧ Keeps grown left ∧
        StepsTo grown route piece next ∧ grown.at? next = some .directory :=
    fun step stands => ⟨tree, makeDirectories_cons step stands, .refl tree, keeps, step, stands⟩
  cases step with
  | stay silent => exact there (.stay silent) here
  | up loud up => exact there (.up loud up) (settled_above settled).1
  | down loud down short node found =>
    cases stood : tree.at? (route ++ [piece]) with
    | some node =>
      cases node with
      | directory => exact there (.down loud down short _ stood) stood
      | file content => exact absurd directory (by
          obtain ⟨other, stands, same⟩ := keeps _ _ stood
          rw [stands]
          rintro ⟨rfl⟩
          cases same)
    | none =>
      have inside : Route.isAbove (route ++ [piece]) = false := isAbove_concat down
      have made : (tree.put (route ++ [piece]) .directory).at? (route ++ [piece]) =
          some .directory := by
        rw [at?_put tree inside, if_pos rfl]
      refine ⟨_, ?_, keeps_put_directory inside stood, keeps_of_at? keeps inside directory rfl,
        .down loud down short _ made, made⟩
      intro rest
      rw [makeDirectories, if_neg (by simp [loud]), if_neg down, if_neg short, stood]

/-- The way to a directory of a larger tree can be made in the smaller one, and no more is made than
the larger one has. -/
theorem makeDirectories_of_keeps {tree left : FileTree} {route last : Route} {pieces : List Text}
    (keeps : Keeps tree left) (settled : Settled tree route)
    (here : tree.at? route = some .directory) (followed : left.follow route pieces = .ok last)
    (directory : left.at? last = some .directory) :
    ∃ grown, tree.makeDirectories route pieces = (grown, none) ∧ Keeps tree grown ∧
      Keeps grown left ∧ grown.follow route pieces = .ok last ∧
      grown.at? last = some .directory := by
  induction pieces generalizing tree route with
  | nil =>
    cases followed
    exact ⟨tree, rfl, .refl tree, keeps, rfl, here⟩
  | cons piece rest ih =>
    obtain ⟨_, next, step, onward⟩ := follow_cons_eq_ok.mp followed
    obtain ⟨mid, first, further, inner, stepped, stands⟩ :=
      makeDirectories_step keeps settled here step (directory_of_follow onward directory)
    have here := further.directory here
    have settled := stepped.settled (further.settled settled) here
    obtain ⟨grown, made, more, within, reached, final⟩ := ih inner settled stands onward
    exact ⟨grown, by rw [first, made], further.trans more, within,
      follow_cons_eq_ok.mpr ⟨more.directory here, next, more.stepsTo stepped, reached⟩, final⟩

/-- A file of a larger tree can be saved in the smaller one, in the same place. -/
theorem save_of_keeps {tree left : FileTree} {path : Path} {route : Route} {held : Content}
    (keeps : Keeps tree left) (place : left.place? path = some route)
    (stands : left.at? route = some (.file held)) :
    ∃ roomy, Route.isAbove route = false ∧ SameFiles tree roomy ∧ Keeps tree roomy ∧
      Keeps roomy left ∧ roomy.at? route ≠ some .directory ∧
      ∀ content, Properties.save tree path content =
        (roomy.put route (.file (.text content)), none) := by
  obtain ⟨front, name, leads, rfl⟩ := leads_of_resolve (place?_eq_some.mp place) stands
  obtain ⟨above, kept, silent, shape, allSilent, parent, keptPieces, checked, followed⟩ :=
    leads.exists_parent
  obtain ⟨roomy, made, further, inner, reached, directory⟩ :=
    makeDirectories_of_keeps keeps (settled_nil tree) rfl followed leads.directory
  have room : Properties.makeRoom tree path = (roomy, none) := by
    have above : tree.makeDirectory above = (roomy, none) := by
      rw [← keptPieces] at made
      rcases checked with rfl | checked
      · exact made
      · rw [makeDirectory, checked]
        exact made
    simp [Properties.makeRoom, parent, above]
  have there : Leads roomy path front name := by
    refine ⟨leads.checked, ⟨kept ++ silent, shape, ?_⟩, directory, leads.loud, leads.down,
      leads.short⟩
    rw [follow_append, reached]
    exact follow_silent roomy directory allSilent
  have free := inner.at?_ne_directory stands
  have same := sameFiles_makeRoom tree path
  rw [room] at same
  refine ⟨roomy, isAbove_concat leads.down, same, further, inner, free, ?_⟩
  intro content
  simp only [Properties.save, room, there.write free]

end MessageKeys.FileTree
