import MessageKeys.Proofs.FileTree.Following

/-!
Reading and writing files of a tree.

`at?_put` says what a tree holds after one node has been put into it. Following a path asks only
which routes exist and which of them are directories, so a tree that keeps these (`Keeps`) is
followed in the same way. From this: a write puts a file where the path leads (`write_uniform`,
`Leads.readText`), and writing over a file leaves every other file as it was (`readText_put`).
-/
namespace MessageKeys.FileTree

theorem lookup_replaced (entries : List (Route × Node)) (route other : Route) (node : Node) :
    (entries.map fun (here, old) =>
        if here = route then (here, node) else (here, old)).lookup other =
      if other = route then (entries.lookup route).map fun _ => node else entries.lookup other := by
  induction entries with
  | nil => simp
  | cons entry more ih =>
    obtain ⟨here, old⟩ := entry
    by_cases same : here = route
    · subst same
      by_cases sought : other = here
      · subst sought
        simp
      · simp [List.lookup_cons, sought, ih, beq_false_of_ne sought]
    · by_cases sought : other = here
      · subst sought
        simp [same]
      · by_cases target : other = route
        · subst target
          simp [List.lookup_cons, same, ih, beq_false_of_ne sought]
        · simp [List.lookup_cons, same, ih, target, beq_false_of_ne sought]

/-- What a tree holds after one node has been put into it. -/
theorem at?_put (tree : FileTree) {route : Route} (inside : Route.isAbove route = false)
    (node : Node) (other : Route) :
    (tree.put route node).at? other = if other = route then some node else tree.at? other := by
  have here : ∀ {found}, tree.entries.lookup route = found →
      (tree.put route node).entries.lookup other =
        if other = route then some node else tree.entries.lookup other := by
    intro found lookup
    cases found with
    | none =>
      rw [put, if_neg (by simp [lookup]), List.lookup_append]
      by_cases same : other = route
      · subst same
        simp [lookup]
      · simp [same]
        cases tree.entries.lookup other <;> simp [List.lookup_cons, beq_false_of_ne same]
    | some old =>
      rw [put, if_pos (by simp [lookup])]
      dsimp only
      rw [lookup_replaced, lookup]
      rfl
  by_cases same : other = route
  · subst same
    rw [at?, inside, here rfl, if_pos rfl, if_pos rfl]
    rfl
  · rw [at?, at?, here rfl, if_neg same, if_neg same]

/-- Of two nodes at one route the last one stays. -/
theorem put_put (tree : FileTree) (route : Route) (first last : Node) :
    (tree.put route first).put route last = tree.put route last := by
  have here : ((tree.put route first).entries.lookup route).isSome = true := by
    unfold put
    split
    · next taken => rw [lookup_replaced, if_pos rfl, Option.isSome_map, taken]
    · next free =>
      rw [Bool.not_eq_true, Option.isSome_eq_false_iff, Option.isNone_iff_eq_none] at free
      simp [List.lookup_append, free]
  rw [put, if_pos here]
  unfold put
  split
  · rw [List.map_map]
    congr 2
    funext ⟨other, old⟩
    by_cases same : other = route <;> simp [same]
  · next free =>
    have elsewhere : ∀ entry ∈ tree.entries, entry.1 ≠ route := by
      intro entry member same
      rw [Bool.not_eq_true, Option.isSome_eq_false_iff, Option.isNone_iff_eq_none,
        List.lookup_eq_none_iff] at free
      have different := free entry member
      simp [same] at different
    have kept : (tree.entries.map fun (other, old) =>
        if other = route then (other, last) else (other, old)) = tree.entries := by
      rw [List.map_congr_left fun entry member => if_neg (elsewhere entry member)]
      exact List.map_id _
    dsimp only
    rw [List.map_append, kept]
    simp

/-- Every route of a tree is one of the other tree too, and stays a directory or a file. -/
def Keeps (tree other : FileTree) : Prop :=
  ∀ route node, tree.at? route = some node →
    ∃ left, other.at? route = some left ∧ left.isDirectory = node.isDirectory

theorem Keeps.directory {tree other : FileTree} (keeps : Keeps tree other) {route : Route}
    (directory : tree.at? route = some .directory) : other.at? route = some .directory := by
  obtain ⟨left, found, same⟩ := keeps route _ directory
  cases left with
  | directory => exact found
  | file content => cases same

theorem Keeps.stepsTo {tree other : FileTree} (keeps : Keeps tree other) {route next : Route}
    {piece : Text} (step : StepsTo tree route piece next) : StepsTo other route piece next := by
  cases step with
  | stay silent => exact .stay silent
  | up loud up => exact .up loud up
  | down loud down short node found =>
    obtain ⟨left, there, _⟩ := keeps _ _ found
    exact .down loud down short left there

/-- A path that can be followed can be followed in a tree that keeps the routes. -/
theorem Keeps.follow {tree other : FileTree} (keeps : Keeps tree other) {route last : Route}
    {pieces : List Text} (followed : tree.follow route pieces = .ok last) :
    other.follow route pieces = .ok last := by
  induction pieces generalizing route with
  | nil => exact followed
  | cons piece rest ih =>
    obtain ⟨here, next, step, onward⟩ := follow_cons_eq_ok.mp followed
    exact follow_cons_eq_ok.mpr ⟨keeps.directory here, next, keeps.stepsTo step, ih onward⟩

theorem Keeps.resolve {tree other : FileTree} (keeps : Keeps tree other) {path : Path}
    {route : Route} (resolved : tree.resolve path = .ok route) :
    other.resolve path = .ok route := by
  unfold FileTree.resolve at resolved ⊢
  cases checked : checkPath path with
  | error cause => simp [checked, bind, Except.bind] at resolved
  | ok _ =>
    simp only [checked, bind, Except.bind] at resolved ⊢
    exact keeps.follow resolved

/-- A file may take the place of a file, or of nothing. -/
theorem keeps_put (tree : FileTree) {route : Route} (inside : Route.isAbove route = false)
    (content : Content) (free : tree.at? route ≠ some .directory) :
    Keeps tree (tree.put route (.file content)) := by
  intro other node found
  rw [at?_put tree inside]
  by_cases same : other = route
  · subst same
    rw [if_pos rfl]
    cases node with
    | directory => exact absurd found free
    | file old => exact ⟨_, rfl, rfl⟩
  · rw [if_neg same]
    exact ⟨node, found, rfl⟩

/-- The tree in which a file has taken the place of another has no new routes. -/
theorem keeps_of_put (tree : FileTree) {route : Route} (inside : Route.isAbove route = false)
    (content old : Content) (taken : tree.at? route = some (.file old)) :
    Keeps (tree.put route (.file content)) tree := by
  intro other node found
  rw [at?_put tree inside] at found
  split at found
  · next same =>
    cases found
    rw [same]
    exact ⟨_, taken, rfl⟩
  · exact ⟨node, found, rfl⟩

theorem isAbove_concat {route : Route} {name : Text} (down : name ≠ upwards) :
    Route.isAbove (route ++ [name]) = false := by
  simp [Route.isAbove, down]

/-- A name at the end of a path, in a directory that the path leads to. -/
structure Leads (tree : FileTree) (path : Path) (route : Route) (name : Text) : Prop where
  checked : checkPath path = .ok ()
  front : ∃ pieces, Path.pieces path = pieces ++ [name] ∧ tree.follow [] pieces = .ok route
  directory : tree.at? route = some .directory
  loud : Path.isSilent name = false
  down : name ≠ upwards
  short : ¬nameLimit < Text.size name

theorem Leads.resolve {tree : FileTree} {path : Path} {route : Route} {name : Text}
    (leads : Leads tree path route name) {node : Node}
    (found : tree.at? (route ++ [name]) = some node) :
    tree.resolve path = .ok (route ++ [name]) := by
  obtain ⟨pieces, shape, followed⟩ := leads.front
  simp only [FileTree.resolve, leads.checked, bind, Except.bind]
  rw [shape, follow_append, followed]
  exact follow_name tree leads.directory leads.loud leads.down leads.short found

theorem Leads.keeps {tree other : FileTree} {path : Path} {route : Route} {name : Text}
    (leads : Leads tree path route name) (keeps : Keeps tree other) :
    Leads other path route name := by
  obtain ⟨pieces, shape, followed⟩ := leads.front
  exact ⟨leads.checked, ⟨pieces, shape, keeps.follow followed⟩, keeps.directory leads.directory,
    leads.loud, leads.down, leads.short⟩

theorem eq_ok_of_toOption {ε α : Type} {result : Except ε α} {value : α}
    (present : result.toOption = some value) : result = .ok value := by
  cases result with
  | error error => cases present
  | ok other => rw [Option.some.inj present]

/-- What a write does. Its content does not matter for whether it fails. -/
theorem write_uniform (tree : FileTree) (path : Path) :
    (∃ cause, ∀ content, tree.write path content = .error cause) ∨
      ∃ route name, Leads tree path route name ∧ tree.at? (route ++ [name]) ≠ some .directory ∧
        ∀ content, tree.write path content = .ok (tree.put (route ++ [name]) (.file content)) := by
  unfold write
  cases checked : checkPath path with
  | error cause => exact .inl ⟨cause, fun _ => rfl⟩
  | ok _ =>
    simp only [bind, Except.bind]
    cases followed : tree.follow [] (Path.pieces path).dropLast with
    | error cause => exact .inl ⟨cause, fun _ => rfl⟩
    | ok route =>
      dsimp only
      cases last : (Path.pieces path).getLast? with
      | none => exact .inl ⟨_, fun _ => rfl⟩
      | some name =>
        dsimp only
        split
        · exact .inl ⟨_, fun _ => rfl⟩
        next named =>
          rw [not_or, Bool.not_eq_true] at named
          split
          · exact .inl ⟨_, fun _ => rfl⟩
          · exact .inl ⟨_, fun _ => rfl⟩
          · exact .inl ⟨_, fun _ => rfl⟩
          next absent occupied free =>
            have directory : tree.at? route = some .directory := by
              cases found : tree.at? route with
              | none => exact absurd found absent
              | some node =>
                cases node with
                | directory => rfl
                | file old => exact absurd found (occupied old)
            split
            · exact .inl ⟨_, fun _ => rfl⟩
            next short =>
              have shape : Path.pieces path = (Path.pieces path).dropLast ++ [name] := by
                obtain ⟨front, whole⟩ := List.getLast?_eq_some_iff.mp last
                rw [whole, List.dropLast_concat]
              exact .inr ⟨route, name, ⟨checked, ⟨_, shape, followed⟩, directory, named.1, named.2,
                short⟩, free, fun _ => rfl⟩

/-- A file that stands where a path leads is read. -/
theorem Leads.readText {tree : FileTree} {path : Path} {route : Route} {name text : Text}
    (leads : Leads tree path route name)
    (found : tree.at? (route ++ [name]) = some (.file (.text text))) :
    tree.readText path = .ok text := by
  simp [FileTree.readText, leads.resolve found, found, bind, Except.bind]

/-- What a read does. -/
theorem readText_eq_ok {tree : FileTree} {path : Path} {text : Text} :
    tree.readText path = .ok text ↔
      ∃ route, tree.resolve path = .ok route ∧ tree.at? route = some (.file (.text text)) := by
  unfold FileTree.readText
  cases resolved : tree.resolve path with
  | error cause => simp [bind, Except.bind]
  | ok route =>
    simp only [bind, Except.bind, Except.ok.injEq, exists_eq_left']
    split
    · next absent => simp [absent]
    · next directory => simp [directory]
    · next bytes found => simp [found]
    · next other found => simp [found]

/-- Writing over a file changes what is read at the paths that name it, and nothing else. -/
theorem readText_put {tree : FileTree} {route : Route} (inside : Route.isAbove route = false)
    {old new : Text} (taken : tree.at? route = some (.file (.text old))) (path : Path)
    (text : Text) :
    (tree.put route (.file (.text new))).readText path = .ok text ↔
      (tree.resolve path = .ok route ∧ text = new) ∨
        (tree.resolve path ≠ .ok route ∧ tree.readText path = .ok text) := by
  have forth := keeps_put tree inside (.text new) (by simp [taken])
  have back := keeps_of_put tree inside (.text new) (.text old) taken
  simp only [readText_eq_ok, at?_put tree inside]
  constructor
  · rintro ⟨found, resolved, held⟩
    have before := back.resolve resolved
    by_cases same : found = route
    · rw [if_pos same] at held
      subst same
      exact .inl ⟨before, by simpa using held.symm⟩
    · rw [if_neg same] at held
      refine .inr ⟨?_, found, before, held⟩
      intro target
      rw [before] at target
      exact same (Except.ok.inj target)
  · rintro (⟨resolved, rfl⟩ | ⟨different, found, resolved, held⟩)
    · exact ⟨route, forth.resolve resolved, by rw [if_pos rfl]⟩
    · refine ⟨found, forth.resolve resolved, ?_⟩
      rw [if_neg, held]
      intro same
      rw [same] at resolved
      exact different resolved

end MessageKeys.FileTree
