import MessageKeys.Proofs.FileTree.Growth
import MessageKeys.Proofs.Properties.Batch

/-!
The additions to one file, together and one at a time.

What is read from a file is the text in its place, or nothing if the path leads nowhere yet
(`contentToEdit_cases`). Made together or one at a time, the same additions are accepted, and the
same tree is left, also where a failure ends the work (`editFile_singly`). `editFile_of_place` says
when the work succeeds in a tree that lacks some of another tree's directories, and what it leaves.
-/
namespace MessageKeys.Properties

/-- The additions that change a content, if they are made one after another. -/
def accepted (content : Text) : List Addition → List Addition
  | [] => []
  | addition :: more =>
    match insert? content addition.key addition.value with
    | none => accepted content more
    | some changed => addition :: accepted changed more

section Accepted

variable {content changed : Text} {addition : Addition}

theorem accepted_of_none (refused : insert? content addition.key addition.value = none)
    (more : List Addition) : accepted content (addition :: more) = accepted content more := by
  rw [accepted, refused]

theorem accepted_of_some (inserted : insert? content addition.key addition.value = some changed)
    (more : List Addition) :
    accepted content (addition :: more) = addition :: accepted changed more := by
  rw [accepted, inserted]

theorem insertAll_eq_length (content : Text) (additions : List Addition) :
    (insertAll content additions).2 = (accepted content additions).length := by
  induction additions generalizing content with
  | nil => rfl
  | cons addition more ih =>
    rw [insertAll, accepted]
    cases insert? content addition.key addition.value with
    | none => exact ih content
    | some changed => simp only [ih changed, List.length_cons]

theorem accepted_sublist (content : Text) (additions : List Addition) :
    (accepted content additions).Sublist additions := by
  induction additions generalizing content with
  | nil => exact .slnil
  | cons addition more ih =>
    rw [accepted]
    cases insert? content addition.key addition.value with
    | none => exact (ih content).cons addition
    | some changed => exact (ih changed).cons_cons addition

theorem accepted_append (content : Text) (front back : List Addition) :
    accepted content (front ++ back) =
      accepted content front ++ accepted (insertAll content front).1 back := by
  induction front generalizing content with
  | nil => rfl
  | cons addition more ih =>
    rw [List.cons_append]
    cases inserted : insert? content addition.key addition.value with
    | none =>
      rw [accepted_of_none inserted, accepted_of_none inserted, insertAll_of_none inserted, ih]
    | some changed =>
      rw [accepted_of_some inserted, accepted_of_some inserted, insertAll_of_some inserted, ih,
        List.cons_append]

theorem insertAll_append (content : Text) (front back : List Addition) :
    (insertAll content (front ++ back)).1 = (insertAll (insertAll content front).1 back).1 := by
  induction front generalizing content with
  | nil => rfl
  | cons addition more ih =>
    rw [List.cons_append]
    cases inserted : insert? content addition.key addition.value with
    | none => rw [insertAll_of_none inserted, insertAll_of_none inserted, ih]
    | some changed => rw [insertAll_of_some inserted, insertAll_of_some inserted, ih]

/-- A single addition is accepted or not. -/
theorem accepted_single (content : Text) (addition : Addition) :
    accepted content [addition] = [] ∨ accepted content [addition] = [addition] := by
  cases inserted : insert? content addition.key addition.value with
  | none => exact .inl (accepted_of_none inserted [])
  | some changed => exact .inr (accepted_of_some inserted [])

/-- Where no addition is accepted, the content stays. -/
theorem insertAll_of_accepted_nil {additions : List Addition}
    (none : accepted content additions = []) : (insertAll content additions).1 = content := by
  induction additions with
  | nil => rfl
  | cons addition more ih =>
    cases inserted : insert? content addition.key addition.value with
    | none =>
      rw [accepted_of_none inserted] at none
      rw [insertAll_of_none inserted, ih none]
    | some changed =>
      rw [accepted_of_some inserted] at none
      cases none

/-- An empty content takes the first addition. -/
theorem accepted_nil_ne_nil {additions : List Addition} (filled : additions ≠ []) :
    accepted [] additions ≠ [] := by
  obtain ⟨addition, more, rfl⟩ := List.exists_cons_of_ne_nil filled
  have inserted : insert? [] addition.key addition.value =
      some (newLine addition.key addition.value ++ lineEnd []) := by
    rw [insert?, if_pos rfl]
  rw [accepted_of_some inserted]
  exact List.cons_ne_nil _ _

end Accepted

/-- What was done if these were asked for and those were made. -/
def EditStats.ofMade (asked made : List Addition) : EditStats :=
  ⟨asked.length, asked.length - made.length, made.length, (distinct (made.map (·.file))).length⟩

/-- Additions that were made to one file are those to no file or to one. -/
theorem EditStats.ofMade_of_file {path : Path} {asked made : List Addition}
    (own : ∀ addition ∈ made, addition.file = path) :
    EditStats.ofMade asked made =
      ⟨asked.length, asked.length - made.length, made.length, if made = [] then 0 else 1⟩ := by
  have files : made.map (·.file) = List.replicate made.length path :=
    List.eq_replicate_iff.mpr ⟨List.length_map _, by simpa using own⟩
  rw [ofMade, files]
  cases made with
  | nil => rfl
  | cons addition more =>
    have known : ∀ other ∈ List.replicate more.length path, id other ∈ [id path] := by
      intro other member
      rw [List.eq_of_mem_replicate member]
      exact List.mem_singleton_self _
    rw [List.length_cons, List.replicate_succ, distinct, distinctBy, if_neg (by simp),
      distinctBy_seen known]
    rfl

/-! ## What is read -/

/-- What is read is the text in the place of the file, or nothing if there is none. -/
theorem contentToEdit_cases {tree : FileTree} {path : Path} {content : Text}
    (opened : contentToEdit tree path = .ok content) :
    (∃ route, tree.place? path = some route ∧
        tree.at? route = some (.file (.text content))) ∨
      tree.pathExists path = false ∧ content = [] := by
  unfold contentToEdit at opened
  split at opened
  · cases read : tree.readText path with
    | error cause => simp [read] at opened
    | ok text =>
      simp only [read, Except.ok.injEq] at opened
      obtain ⟨route, resolved, found⟩ := FileTree.readText_eq_ok.mp read
      exact .inl ⟨route, FileTree.place?_eq_some.mpr resolved, opened ▸ found⟩
  next missing =>
    rw [Bool.not_eq_true] at missing
    exact .inr ⟨missing, (Except.ok.inj opened).symm⟩

theorem contentToEdit_of_at? {tree : FileTree} {path : Path} {route : Route} {content : Text}
    (place : tree.place? path = some route)
    (found : tree.at? route = some (.file (.text content))) :
    contentToEdit tree path = .ok content :=
  contentToEdit_of_readText
    (FileTree.readText_eq_ok.mpr ⟨route, FileTree.place?_eq_some.mp place, found⟩)

/-- An edit of a file that was read. -/
theorem editFile_of_opened {tree : FileTree} {path : Path} {content : Text}
    (opened : contentToEdit tree path = .ok content) (additions : List Addition)
    (own : ∀ addition ∈ additions, addition.file = path) :
    editFile tree path additions =
      if accepted content additions = [] then ⟨tree, .ok (.ofMade additions [])⟩
      else
        match save tree path (insertAll content additions).1 with
        | (left, some error) => ⟨left, .error error⟩
        | (left, none) => ⟨left, .ok (.ofMade additions (accepted content additions))⟩ := by
  have ownAccepted : ∀ addition ∈ accepted content additions, addition.file = path :=
    fun addition member => own addition ((accepted_sublist content additions).subset member)
  simp only [editFile, opened, insertAll_eq_length, List.length_eq_zero_iff,
    EditStats.ofMade_of_file ownAccepted]
  split
  · next none => simp [none, EditStats.ofMade, distinct, distinctBy]
  · rfl

/-- What an edit that succeeds tells. -/
theorem editFile_eq_ok {tree left : FileTree} {path : Path} {additions : List Addition}
    {stats : EditStats} (done : editFile tree path additions = ⟨left, .ok stats⟩)
    (own : ∀ addition ∈ additions, addition.file = path) :
    ∃ content, contentToEdit tree path = .ok content ∧
      stats = .ofMade additions (accepted content additions) ∧
      (accepted content additions = [] → left = tree) := by
  cases opened : contentToEdit tree path with
  | error error => simp [editFile, opened] at done
  | ok content =>
    refine ⟨content, rfl, ?_⟩
    rw [editFile_of_opened opened additions own] at done
    by_cases none : accepted content additions = []
    · rw [if_pos none, Edited.mk.injEq, Except.ok.injEq] at done
      exact ⟨none ▸ done.2.symm, fun _ => done.1.symm⟩
    · rw [if_neg none] at done
      split at done
      · cases done
      · rw [Edited.mk.injEq, Except.ok.injEq] at done
        exact ⟨done.2.symm, fun nothing => absurd nothing none⟩

/-! ## One at a time -/

/-- Carries out additions one at a time, each by opening, changing and saving its file. Returns
those that were made. -/
def carryOutSingly (tree : FileTree) : List Addition → FileTree × Except EditError (List Addition)
  | [] => (tree, .ok [])
  | addition :: more =>
    match editFile tree addition.file [addition] with
    | ⟨left, .error error⟩ => (left, .error error)
    | ⟨left, .ok stats⟩ =>
      let rest := carryOutSingly left more
      (rest.1, rest.2.map ((if stats.applied = 0 then [] else [addition]) ++ ·))

/-- One addition that was made or refused, and then the others. -/
theorem carryOutSingly_of_editFile {tree grown : FileTree} {addition : Addition} {content : Text}
    (done : editFile tree addition.file [addition] =
      ⟨grown, .ok (.ofMade [addition] (accepted content [addition]))⟩) (more : List Addition) :
    carryOutSingly tree (addition :: more) =
      ((carryOutSingly grown more).1,
        (carryOutSingly grown more).2.map (accepted content [addition] ++ ·)) := by
  rw [carryOutSingly, done]
  rcases accepted_single content addition with none | one
  · simp [none, EditStats.ofMade]
  · simp [one, EditStats.ofMade]

section Singly

variable {tree : FileTree} {path : Path} {content : Text}

/-- One addition, and then the others. -/
theorem carryOutSingly_cons (opened : contentToEdit tree path = .ok content)
    {addition : Addition} (here : addition.file = path) (more : List Addition) :
    carryOutSingly tree (addition :: more) =
      match insert? content addition.key addition.value with
      | none => carryOutSingly tree more
      | some changed =>
        match save tree path changed with
        | (left, some error) => (left, .error error)
        | (left, none) =>
          ((carryOutSingly left more).1, (carryOutSingly left more).2.map (addition :: ·)) := by
  have own : ∀ other ∈ [addition], other.file = path := by simpa using here
  rw [carryOutSingly, here, editFile_of_opened opened [addition] own]
  cases inserted : insert? content addition.key addition.value with
  | none =>
    have nothing : accepted content [addition] = [] := accepted_of_none inserted []
    rw [if_pos nothing]
    dsimp only
    rcases carryOutSingly tree more with ⟨left, result⟩
    cases result <;> rfl
  | some changed =>
    have one : accepted content [addition] = [addition] := accepted_of_some inserted []
    rw [if_neg (by simp [one]), one, insertAll_of_some inserted, insertAll]
    dsimp only
    rcases save tree path changed with ⟨left, error?⟩
    cases error? <;> rfl

/-- Further additions to a file that has been saved: the last content stays in its place. -/
theorem carryOutSingly_of_saved {roomy : FileTree} {front : Route} {name : Text}
    (leads : FileTree.Leads roomy path front name)
    (free : roomy.at? (front ++ [name]) ≠ some .directory) (content : Text)
    {additions : List Addition} (own : ∀ addition ∈ additions, addition.file = path) :
    carryOutSingly (roomy.put (front ++ [name]) (.file (.text content))) additions =
      (roomy.put (front ++ [name]) (.file (.text (insertAll content additions).1)),
        .ok (accepted content additions)) := by
  have inside : Route.isAbove (front ++ [name]) = false := FileTree.isAbove_concat leads.down
  induction additions generalizing content with
  | nil => rfl
  | cons addition more ih =>
    rw [List.forall_mem_cons] at own
    have stands : (roomy.put (front ++ [name]) (.file (.text content))).at? (front ++ [name]) =
        some (.file (.text content)) := by
      rw [FileTree.at?_put roomy inside, if_pos rfl]
    have resolved := (leads.keeps (FileTree.keeps_put roomy inside _ free)).resolve stands
    have read := FileTree.readText_eq_ok.mpr ⟨_, resolved, stands⟩
    rw [carryOutSingly_cons (contentToEdit_of_readText read) own.1]
    cases inserted : insert? content addition.key addition.value with
    | none => rw [accepted_of_none inserted, insertAll_of_none inserted, ih content own.2]
    | some changed =>
      obtain ⟨route, again, _, _, saved⟩ := FileTree.save_of_readText read changed
      rw [resolved, Except.ok.injEq] at again
      rw [← again, FileTree.put_put] at saved
      rw [accepted_of_some inserted, insertAll_of_some inserted]
      simp only [saved, ih changed own.2]
      rfl

/-- Additions to a file that cannot be saved fail with the first one that is accepted. -/
theorem carryOutSingly_of_unsavable {left : FileTree} {error : EditError}
    (opened : contentToEdit tree path = .ok content)
    (failed : ∀ changed, save tree path changed = (left, some error)) {additions : List Addition}
    (own : ∀ addition ∈ additions, addition.file = path) :
    carryOutSingly tree additions =
      if accepted content additions = [] then (tree, .ok []) else (left, .error error) := by
  induction additions with
  | nil => rfl
  | cons addition more ih =>
    rw [List.forall_mem_cons] at own
    rw [carryOutSingly_cons opened own.1]
    cases inserted : insert? content addition.key addition.value with
    | none => rw [accepted_of_none inserted, ← ih own.2]
    | some changed =>
      rw [accepted_of_some inserted, if_neg (List.cons_ne_nil _ _)]
      simp only [failed]

/-- Additions to a file that can be saved leave all that are accepted in its place. -/
theorem carryOutSingly_of_savable {roomy : FileTree} {front : Route} {name : Text}
    (opened : contentToEdit tree path = .ok content)
    (leads : FileTree.Leads roomy path front name)
    (free : roomy.at? (front ++ [name]) ≠ some .directory)
    (saved : ∀ changed, save tree path changed =
      (roomy.put (front ++ [name]) (.file (.text changed)), none))
    {additions : List Addition} (own : ∀ addition ∈ additions, addition.file = path) :
    carryOutSingly tree additions =
      (if accepted content additions = [] then tree
        else roomy.put (front ++ [name]) (.file (.text (insertAll content additions).1)),
        .ok (accepted content additions)) := by
  induction additions with
  | nil => rfl
  | cons addition more ih =>
    rw [List.forall_mem_cons] at own
    rw [carryOutSingly_cons opened own.1]
    cases inserted : insert? content addition.key addition.value with
    | none => rw [accepted_of_none inserted, insertAll_of_none inserted, ← ih own.2]
    | some changed =>
      rw [accepted_of_some inserted, if_neg (List.cons_ne_nil _ _), insertAll_of_some inserted]
      simp only [saved, carryOutSingly_of_saved leads free changed own.2]
      rfl

/-- The additions to one file, made together, are those made one at a time: both fail alike, or both
succeed and leave the same tree. -/
theorem editFile_singly {additions : List Addition} (filled : additions ≠ [])
    (own : ∀ addition ∈ additions, addition.file = path) :
    (∃ left error, editFile tree path additions = ⟨left, .error error⟩ ∧
      carryOutSingly tree additions = (left, .error error)) ∨
    ∃ left content, contentToEdit tree path = .ok content ∧
      editFile tree path additions =
        ⟨left, .ok (.ofMade additions (accepted content additions))⟩ ∧
      carryOutSingly tree additions = (left, .ok (accepted content additions)) := by
  cases opened : contentToEdit tree path with
  | error error =>
    obtain ⟨addition, more, rfl⟩ := List.exists_cons_of_ne_nil filled
    refine .inl ⟨tree, error, ?_, ?_⟩
    · simp only [editFile, opened]
    · simp only [carryOutSingly, editFile, own addition List.mem_cons_self, opened]
  | ok content =>
    have together := editFile_of_opened opened additions own
    rcases FileTree.save_uniform tree path with
      ⟨left, error, _, _, failed⟩ | ⟨roomy, front, name, _, _, leads, free, saved⟩
    · have singly := carryOutSingly_of_unsavable opened failed own
      by_cases none : accepted content additions = []
      · refine .inr ⟨tree, content, rfl, ?_, ?_⟩
        · rw [together, if_pos none, none]
        · rw [singly, if_pos none, none]
      · refine .inl ⟨left, error, ?_, ?_⟩
        · simp only [together, if_neg none, failed]
        · rw [singly, if_neg none]
    · have singly := carryOutSingly_of_savable opened leads free saved own
      by_cases none : accepted content additions = []
      · refine .inr ⟨tree, content, rfl, ?_, ?_⟩
        · rw [together, if_pos none, none]
        · rw [singly, if_pos none]
      · refine .inr ⟨_, content, rfl, ?_, by rw [singly, if_neg none]⟩
        simp only [together, if_neg none, saved]

end Singly

/-! ## The file that is changed -/

/-- What an edit of a file leaves there: all additions are inserted into what was read. -/
theorem exists_of_editFile {tree left : FileTree} {path : Path} {additions : List Addition}
    {stats : EditStats} (done : editFile tree path additions = ⟨left, .ok stats⟩)
    (filled : additions ≠ []) (own : ∀ addition ∈ additions, addition.file = path) :
    tree.Keeps left ∧ ∃ route content, left.place? path = some route ∧
      (tree.textAt? route = some content ∨ tree.pathExists path = false ∧ content = []) ∧
      left.contentAt? route = some (.text (insertAll content additions).1) ∧
      ∀ other, other ≠ route → left.contentAt? other = tree.contentAt? other := by
  cases opened : contentToEdit tree path with
  | error error => simp [editFile, opened] at done
  | ok content =>
    rw [editFile_of_opened opened additions own] at done
    by_cases none : accepted content additions = []
    · rw [if_pos none, Edited.mk.injEq] at done
      obtain ⟨rfl, _⟩ := done
      -- Nothing is accepted, so that there is a file to read from.
      rcases contentToEdit_cases opened with ⟨route, place, found⟩ | ⟨_, rfl⟩
      · have held : tree.contentAt? route = some (.text content) := by
          rw [FileTree.contentAt?, found]
        refine ⟨.refl tree, route, content, place, .inl ?_, ?_, fun _ _ => rfl⟩
        · rw [FileTree.textAt?, held]
        · rw [insertAll_of_accepted_nil none, held]
      · exact absurd none (accepted_nil_ne_nil filled)
    · rw [if_neg none] at done
      rcases FileTree.save_uniform tree path with
        ⟨_, _, _, _, failed⟩ | ⟨roomy, front, name, same, keeps, leads, free, saved⟩
      · simp [failed] at done
      · simp only [saved, Edited.mk.injEq] at done
        obtain ⟨rfl, _⟩ := done
        have inside : Route.isAbove (front ++ [name]) = false := FileTree.isAbove_concat leads.down
        have further := FileTree.keeps_put roomy inside
          (.text (insertAll content additions).1) free
        have stands : (roomy.put (front ++ [name])
            (.file (.text (insertAll content additions).1))).at? (front ++ [name]) =
            some (.file (.text (insertAll content additions).1)) := by
          rw [FileTree.at?_put roomy inside, if_pos rfl]
        have place : FileTree.place? _ path = some (front ++ [name]) :=
          FileTree.place?_eq_some.mpr ((leads.keeps further).resolve stands)
        refine ⟨keeps.trans further, front ++ [name], content, place, ?_, ?_, ?_⟩
        · rcases contentToEdit_cases opened with ⟨route, before, found⟩ | missing
          · have again := (keeps.trans further).place? before
            rw [place, Option.some.injEq] at again
            exact .inl (by rw [again, FileTree.textAt?, FileTree.contentAt?, found])
          · exact .inr missing
        · rw [FileTree.contentAt?, stands]
        · intro other elsewhere
          rw [FileTree.contentAt?, FileTree.at?_put roomy inside, if_neg elsewhere]
          exact same other

/-- An edit that fails changes no file. -/
theorem editFile_eq_error {tree left : FileTree} {path : Path} {additions : List Addition}
    {error : EditError} (failed : editFile tree path additions = ⟨left, .error error⟩)
    (own : ∀ addition ∈ additions, addition.file = path) :
    tree.SameFiles left ∧ tree.Keeps left := by
  cases opened : contentToEdit tree path with
  | error cause =>
    simp only [editFile, opened, Edited.mk.injEq] at failed
    obtain ⟨rfl, _⟩ := failed
    exact ⟨fun _ => rfl, .refl tree⟩
  | ok content =>
    rw [editFile_of_opened opened additions own] at failed
    split at failed
    · cases failed
    · rcases FileTree.save_uniform tree path with
        ⟨other, _, same, keeps, stopped⟩ | ⟨_, _, _, _, _, _, _, saved⟩
      · simp only [stopped, Edited.mk.injEq] at failed
        obtain ⟨rfl, _⟩ := failed
        exact ⟨same, keeps⟩
      · simp [saved] at failed

/-- What is read at a path is the text of the file that the path leads to in the end: it leads there
already, or the file is empty or missing. -/
def ReadsPlace (tree left : FileTree) (path : Path) : Prop :=
  tree.pathExists path = true ∨
    ∀ route, left.place? path = some route → tree.textAt? route = some []

/-- A path that goes nowhere up is read as the file that it leads to in the end. -/
theorem readsPlace_of_plain {tree left : FileTree} {path : Path} {route : Route} {held : Content}
    (wellFormed : tree.WellFormed) (plain : upwards ∉ Path.pieces path)
    (place : left.place? path = some route) (stands : left.at? route = some (.file held)) :
    ReadsPlace tree left path := by
  by_cases there : tree.pathExists path = true
  · exact .inl there
  · refine .inr fun other alsoPlace => ?_
    rw [place, Option.some.injEq] at alsoPlace
    obtain ⟨front, name, leads, rfl⟩ :=
      FileTree.leads_of_resolve (FileTree.place?_eq_some.mp place) stands
    rw [← alsoPlace]
    exact FileTree.textAt?_of_leads wellFormed plain there leads

section Place

variable {tree left : FileTree} {path : Path} {route : Route} {held : Content} {old : Text}
  (keeps : tree.Keeps left) (place : left.place? path = some route)
  (stands : left.at? route = some (.file held)) (text : tree.textAt? route = some old)
  (reads : ReadsPlace tree left path)
include keeps place stands text reads

theorem contentToEdit_of_readsPlace : contentToEdit tree path = .ok old := by
  by_cases there : tree.pathExists path = true
  · obtain ⟨before, node, here, found⟩ := FileTree.exists_place_of_pathExists there
    have same := keeps.place? here
    rw [place, Option.some.injEq] at same
    subst same
    have free := keeps.at?_ne_directory stands
    cases node with
    | directory => exact absurd found free
    | file content =>
      rw [FileTree.textAt?, FileTree.contentAt?, found] at text
      cases content with
      | text other =>
        cases text
        exact contentToEdit_of_at? here found
      | binary bytes => cases text
  · have empty := reads.resolve_left there route place
    rw [text, Option.some.injEq] at empty
    rw [contentToEdit, if_neg there, empty]

/-- A file of a larger tree can be edited in the smaller one. -/
theorem editFile_of_place (additions : List Addition)
    (own : ∀ addition ∈ additions, addition.file = path) :
    ∃ grown, editFile tree path additions =
        ⟨grown, .ok (.ofMade additions (accepted old additions))⟩ ∧
      tree.Keeps grown ∧ grown.Keeps left ∧
      (∀ other, other ≠ route → grown.contentAt? other = tree.contentAt? other) ∧
      grown.contentAt? route =
        (if accepted old additions = [] then tree.contentAt? route
          else some (.text (insertAll old additions).1)) ∧
      ReadsPlace grown left path := by
  have opened := contentToEdit_of_readsPlace keeps place stands text reads
  rw [editFile_of_opened opened additions own]
  by_cases none : accepted old additions = []
  · rw [if_pos none, none]
    exact ⟨tree, rfl, .refl tree, keeps, fun _ _ => rfl, by rw [if_pos rfl], reads⟩
  · rw [if_neg none]
    obtain ⟨roomy, inside, same, further, inner, free, saved⟩ :=
      FileTree.save_of_keeps keeps place stands
    have more := FileTree.keeps_put roomy inside (.text (insertAll old additions).1) free
    have whole : (roomy.put route (.file (.text (insertAll old additions).1))).Keeps left :=
      FileTree.keeps_of_at? inner inside stands rfl
    refine ⟨_, by simp only [saved], further.trans more, whole, ?_, ?_, .inl ?_⟩
    · intro other elsewhere
      rw [FileTree.contentAt?, FileTree.at?_put roomy inside, if_neg elsewhere]
      exact same other
    · rw [if_neg none, FileTree.contentAt?, FileTree.at?_put roomy inside, if_pos rfl]
    · have read := FileTree.readText_save (saved (insertAll old additions).1)
      obtain ⟨last, resolved, found⟩ := FileTree.readText_eq_ok.mp read
      exact FileTree.pathExists_of_at? (FileTree.place?_eq_some.mpr resolved) found

end Place

end MessageKeys.Properties
