import MessageKeys.Proofs.FileTree.Writing
import MessageKeys.Proofs.Text.Splitting
import MessageKeys.Properties.Edit

/-!
Saving over a file that can be read.

Every route that following a path comes to lies in directories only (`Settled`). Hence the path of a
file ends in a name in a directory that the rest of the path leads to, the directories that a save
makes are there already, and the save changes this one file and nothing else
(`save_of_readText`).
-/
namespace MessageKeys

namespace Path

/-- Pieces end in silent ones, perhaps none. -/
theorem dropSilentEnd_append (texts : List Text) :
    ∃ silent, texts = dropSilentEnd texts ++ silent ∧ ∀ piece ∈ silent, isSilent piece = true := by
  refine ⟨(texts.reverse.takeWhile isSilent).reverse, ?_, ?_⟩
  · rw [dropSilentEnd, ← List.reverse_append, List.takeWhile_append_dropWhile,
      List.reverse_reverse]
  · intro piece member
    exact List.all_eq_true.mp List.all_takeWhile piece (List.mem_reverse.mp member)

theorem dropSilentEnd_concat {name : Text} (loud : isSilent name = false) (front : List Text) :
    dropSilentEnd (front ++ [name]) = front ++ [name] := by
  simp [dropSilentEnd, loud]

theorem pieces_of_ne_nil {path : Path} (filled : path ≠ []) :
    pieces path = List.splitOn '/' path := by
  rw [pieces, if_neg filled]

theorem ofPieces_pieces (path : Path) : ofPieces (pieces path) = path := by
  by_cases empty : path = []
  · rw [empty]
    rfl
  · rw [pieces_of_ne_nil empty, ofPieces, Text.join_eq_intercalate, List.intercalate_splitOn]

theorem ofPieces_ne_nil {first : Text} (named : first ≠ []) (more : List Text) :
    ofPieces (first :: more) ≠ [] := by
  cases more with
  | nil => exact named
  | cons second rest => simp [ofPieces, Text.join]

/-- Pieces that begin with a name are the pieces of the path that they make. -/
theorem pieces_ofPieces {first : Text} {more : List Text} (filled : ofPieces (first :: more) ≠ [])
    (plain : ∀ piece ∈ first :: more, '/' ∉ piece) :
    pieces (ofPieces (first :: more)) = first :: more := by
  rw [pieces_of_ne_nil filled, ofPieces, Text.join_eq_intercalate]
  exact List.splitOn_intercalate '/' plain (by simp)

theorem ne_nil_of_relative {path : Path} {first : Text} {more : List Text}
    (relative : isAbsolute path = false) (filled : path ≠ [])
    (shape : pieces path = first :: more) : first ≠ [] := by
  intro empty
  have whole := ofPieces_pieces path
  rw [shape, empty] at whole
  cases more with
  | nil => exact filled whole.symm
  | cons second rest =>
    rw [← whole] at relative
    simp [ofPieces, Text.join, isAbsolute] at relative

/-- The parent of a path that ends in a name: the pieces in front of it, without silent ones at
their end. -/
theorem parent?_of_name {path : Path} {front : List Text} {name : Text}
    (relative : isAbsolute path = false) (filled : path ≠ [])
    (shape : pieces path = front ++ [name]) (loud : isSilent name = false) :
    ∃ kept silent, front = kept ++ silent ∧ (∀ piece ∈ silent, isSilent piece = true) ∧
      parent? path = some (ofPieces kept) ∧ pieces (ofPieces kept) = kept ∧
      ofPieces kept <+: path := by
  cases front with
  | nil =>
    refine ⟨[], [], rfl, by simp, ?_, rfl, List.nil_prefix⟩
    have named : name ≠ [] := by
      intro empty
      simp [empty, isSilent] at loud
    simp [parent?, shape, dropSilentEnd, named, ofPieces, Text.join]
  | cons first more =>
    have named : first ≠ [] := ne_nil_of_relative relative filled shape
    obtain ⟨silent, whole, allSilent⟩ := dropSilentEnd_append more
    refine ⟨first :: dropSilentEnd more, silent, ?_, allSilent, ?_, ?_, ?_⟩
    · rw [List.cons_append, ← whole]
    · simp only [parent?, shape, List.cons_append, dropSilentEnd_concat loud]
      cases ended : more ++ [name] with
      | nil => simp at ended
      | cons second rest => simp [← ended, named]
    · apply pieces_ofPieces (ofPieces_ne_nil named _)
      intro piece member
      apply Text.not_mem_of_mem_splitOn
      rw [← pieces_of_ne_nil filled, shape, whole]
      rcases List.mem_cons.mp member with same | inside
      · simp [same]
      · simp [inside]
    · have joined := ofPieces_pieces path
      rw [shape, whole, ofPieces, ← List.cons_append, List.append_assoc,
        Text.join_append _ (by simp) (by simp), List.append_assoc] at joined
      exact ⟨_, joined⟩

end Path

namespace FileTree

/-- A route lies in directories only. -/
def Settled (tree : FileTree) (route : Route) : Prop :=
  ∀ front, front <+: route → front ≠ route → tree.at? front = some .directory

theorem settled_nil (tree : FileTree) : Settled tree [] := by
  intro front isPrefix proper
  exact absurd (List.prefix_nil.mp isPrefix) proper

theorem settled_concat {tree : FileTree} {route : Route} (settled : Settled tree route)
    (directory : tree.at? route = some .directory) (name : Text) :
    Settled tree (route ++ [name]) := by
  intro front isPrefix proper
  rcases List.prefix_concat_iff.mp isPrefix with same | inside
  · exact absurd same proper
  · by_cases whole : front = route
    · rw [whole]
      exact directory
    · exact settled front inside whole

theorem at?_of_isAbove (tree : FileTree) {route : Route} (outside : Route.isAbove route = true) :
    tree.at? route = some .directory := by
  rw [at?, if_pos outside]

/-- The way upwards from a route that lies in directories leads to one. -/
theorem settled_above {tree : FileTree} {route : Route} (settled : Settled tree route) :
    tree.at? (Route.above route) = some .directory ∧ Settled tree (Route.above route) := by
  unfold Route.above
  split
  · next outside =>
    have further : Route.isAbove (route ++ [upwards]) = true := by
      simpa [Route.isAbove] using outside
    refine ⟨at?_of_isAbove tree further, ?_⟩
    intro front isPrefix _
    apply at?_of_isAbove tree
    rw [Route.isAbove, List.all_eq_true] at further ⊢
    intro name member
    exact further name (isPrefix.subset member)
  · next inside =>
    have filled : route ≠ [] := by
      intro empty
      exact inside (by rw [empty]; rfl)
    have shorter : ∀ front, front <+: route.dropLast → front ≠ route := by
      intro front isPrefix same
      have less := isPrefix.length_le
      have positive := List.length_pos_iff.mpr filled
      rw [same, List.length_dropLast] at less
      omega
    refine ⟨settled _ (List.dropLast_prefix route) (shorter _ (List.prefix_refl _)), ?_⟩
    intro front isPrefix _
    exact settled front (isPrefix.trans (List.dropLast_prefix route)) (shorter front isPrefix)

theorem StepsTo.settled {tree : FileTree} {route next : Route} {piece : Text}
    (step : StepsTo tree route piece next) (settled : Settled tree route)
    (here : tree.at? route = some .directory) : Settled tree next := by
  cases step with
  | stay silent => exact settled
  | up loud up => exact (settled_above settled).2
  | down loud down short node found => exact settled_concat settled here piece

/-- Following a path comes to routes that lie in directories only. -/
theorem settled_of_follow {tree : FileTree} {route last : Route} {pieces : List Text}
    (settled : Settled tree route) (followed : tree.follow route pieces = .ok last) :
    Settled tree last := by
  induction pieces generalizing route with
  | nil =>
    cases followed
    exact settled
  | cons piece rest ih =>
    obtain ⟨here, next, step, onward⟩ := follow_cons_eq_ok.mp followed
    exact ih (step.settled settled here) onward

/-- The path of a file ends in a name in a directory that the rest of the path leads to. -/
theorem leads_of_resolve {tree : FileTree} {path : Path} {route : Route} {content : Content}
    (resolved : tree.resolve path = .ok route) (found : tree.at? route = some (.file content)) :
    ∃ front name, Leads tree path front name ∧ route = front ++ [name] := by
  unfold resolve at resolved
  cases checked : checkPath path with
  | error cause => simp [checked, bind, Except.bind] at resolved
  | ok _ =>
    simp only [checked, bind, Except.bind] at resolved
    have filled : Path.pieces path ≠ [] := by
      intro empty
      rw [empty] at resolved
      cases resolved
      rw [at?_of_isAbove tree rfl] at found
      cases found
    have shape := (List.dropLast_concat_getLast filled).symm
    rw [shape, follow_append] at resolved
    cases followed : tree.follow [] (Path.pieces path).dropLast with
    | error cause => simp [followed, Except.bind] at resolved
    | ok front =>
      simp only [followed, Except.bind] at resolved
      have settled := settled_of_follow (settled_nil tree) followed
      obtain ⟨directory, next, step, same⟩ := follow_cons_eq_ok.mp resolved
      cases same
      cases step with
      | stay silent =>
        rw [directory] at found
        cases found
      | up loud up =>
        rw [(settled_above settled).1] at found
        cases found
      | down loud down short node _ =>
        exact ⟨front, _, ⟨checked, ⟨_, shape, followed⟩, directory, loud, down, short⟩, rfl⟩

/-- Directories that are there need not be made. -/
theorem makeDirectories_of_follow {tree : FileTree} {route last : Route} {pieces : List Text}
    (followed : tree.follow route pieces = .ok last)
    (directory : tree.at? last = some .directory) :
    tree.makeDirectories route pieces = (tree, none) := by
  induction pieces generalizing route with
  | nil => rfl
  | cons piece rest ih =>
    obtain ⟨_, next, step, onward⟩ := follow_cons_eq_ok.mp followed
    rw [makeDirectories_cons step (directory_of_follow onward directory), ih onward]

/-- A path that begins another one may be named if the other may. -/
theorem checkPath_of_beginning {path whole : Path} (checked : checkPath whole = .ok ())
    (isPrefix : path <+: whole) (filled : path ≠ []) : checkPath path = .ok () := by
  obtain ⟨rest, rfl⟩ := isPrefix
  unfold checkPath at checked ⊢
  split at checked
  · cases checked
  next noNul =>
    split at checked
    · cases checked
    next short =>
      split at checked
      · cases checked
      next relative =>
        have head : (path ++ rest).head? = path.head? := by
          obtain ⟨c, more, rfl⟩ := List.exists_cons_of_ne_nil filled
          rfl
        rw [not_or, Path.isAbsolute, head, ← Path.isAbsolute] at relative
        rw [List.any_append, Bool.or_eq_true, not_or] at noNul
        rw [Text.size_append] at short
        rw [if_neg noNul.1, if_neg (by omega), if_neg (not_or.mpr ⟨filled, relative.2⟩)]

/-- The directory of a file is what the parent of its path names, which is the only thing that a
save makes room for. -/
theorem Leads.exists_parent {tree : FileTree} {path : Path} {front : Route} {name : Text}
    (leads : Leads tree path front name) :
    ∃ above kept silent, Path.pieces path = kept ++ silent ++ [name] ∧
      (∀ piece ∈ silent, Path.isSilent piece = true) ∧ Path.parent? path = some above ∧
      Path.pieces above = kept ∧ (above = [] ∨ checkPath above = .ok ()) ∧
      tree.follow [] kept = .ok front := by
  obtain ⟨pieces, shape, followed⟩ := leads.front
  have named : ¬(path = [] ∨ Path.isAbsolute path = true) := by
    intro nowhere
    have checked := leads.checked
    simp only [checkPath, if_pos nowhere] at checked
    split at checked
    · cases checked
    · split at checked <;> cases checked
  rw [not_or, Bool.not_eq_true] at named
  obtain ⟨kept, silent, whole, allSilent, parent, keptPieces, isPrefix⟩ :=
    Path.parent?_of_name named.2 named.1 shape leads.loud
  refine ⟨Path.ofPieces kept, kept, silent, whole ▸ shape, allSilent, parent, keptPieces, ?_, ?_⟩
  · by_cases here : Path.ofPieces kept = []
    · exact .inl here
    · exact .inr (checkPath_of_beginning leads.checked isPrefix here)
  · rw [whole, follow_append] at followed
    cases above : tree.follow [] kept with
    | error cause => simp [above, Except.bind] at followed
    | ok place =>
      simp only [above, Except.bind] at followed
      have directory := directory_of_follow followed leads.directory
      rw [follow_silent tree directory allSilent] at followed
      rw [Except.ok.inj followed]

/-- A write to a place where no directory stands. -/
theorem Leads.write {tree : FileTree} {path : Path} {front : Route} {name : Text}
    (leads : Leads tree path front name) (free : tree.at? (front ++ [name]) ≠ some .directory)
    (content : Content) :
    tree.write path content = .ok (tree.put (front ++ [name]) (.file content)) := by
  obtain ⟨pieces, shape, followed⟩ := leads.front
  cases found : tree.at? (front ++ [name]) with
  | none =>
    simp [FileTree.write, leads.checked, shape, followed, leads.loud, leads.down, leads.directory,
      found, leads.short, bind, Except.bind, pure, Except.pure]
  | some node =>
    cases node with
    | directory => exact absurd found free
    | file old =>
      simp [FileTree.write, leads.checked, shape, followed, leads.loud, leads.down,
        leads.directory, found, leads.short, bind, Except.bind, pure, Except.pure]

/-- Saving over a file that can be read changes this file and nothing else. -/
theorem save_of_readText {tree : FileTree} {path : Path} {old : Text}
    (read : tree.readText path = .ok old) (new : Text) :
    ∃ route, tree.resolve path = .ok route ∧ tree.at? route = some (.file (.text old)) ∧
      Route.isAbove route = false ∧
      Properties.save tree path new = (tree.put route (.file (.text new)), none) := by
  obtain ⟨route, resolved, found⟩ := readText_eq_ok.mp read
  obtain ⟨front, name, leads, rfl⟩ := leads_of_resolve resolved found
  refine ⟨_, resolved, found, isAbove_concat leads.down, ?_⟩
  obtain ⟨above, kept, silent, _, _, parent, keptPieces, checked, followed⟩ := leads.exists_parent
  have made : tree.makeDirectory above = (tree, none) := by
    rcases checked with rfl | checked
    · rfl
    · rw [makeDirectory, checked]
      dsimp only
      rw [keptPieces]
      exact makeDirectories_of_follow followed leads.directory
  have room : Properties.makeRoom tree path = (tree, none) := by
    simp [Properties.makeRoom, parent, made]
  simp only [Properties.save, room, leads.write (by simp [found])]

end FileTree

end MessageKeys
