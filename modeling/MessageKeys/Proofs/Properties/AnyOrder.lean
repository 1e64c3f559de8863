import MessageKeys.Proofs.Properties.Singly

/-!
Additions to several files, in any order.

If every path is read as the file that it leads to in the end (`ReadsPlace`), then what a file holds
depends on the additions to this file only (`ServesAll.unique`). So the additions leave the same
files in every order. In particular, what they leave file by file they also leave one at a time in
the order in which they are listed (`runsSingly_listed`). A path that goes up again from a directory
which is made on the way is not read so, and then the order of the files shows in what is left.
-/
namespace MessageKeys.Properties

/-- Of the additions to the file at a route the accepted ones were made, and the file holds what
they leave of it. -/
def Serves (tree left : FileTree) (route : Route) (asked made : List Addition) : Prop :=
  ∃ old, tree.textAt? route = some old ∧ made = accepted old asked ∧
    left.contentAt? route =
      if made = [] then tree.contentAt? route else some (.text (insertAll old asked).1)

section Serves

variable {tree mid left : FileTree} {route : Route} {asked made more further : List Addition}

theorem Serves.of_same (text : (tree.textAt? route).isSome)
    (same : left.contentAt? route = tree.contentAt? route) : Serves tree left route [] [] := by
  obtain ⟨old, found⟩ := Option.isSome_iff_exists.mp text
  exact ⟨old, found, rfl, same⟩

/-- The text of a file after additions. -/
theorem textAt?_of_serves {old : Text} (text : tree.textAt? route = some old)
    (made_eq : made = accepted old asked)
    (held : left.contentAt? route =
      if made = [] then tree.contentAt? route else some (.text (insertAll old asked).1)) :
    left.textAt? route = some (insertAll old asked).1 := by
  by_cases none : made = []
  · rw [if_pos none] at held
    rw [textAt?_congr held, text, insertAll_of_accepted_nil (made_eq ▸ none)]
  · rw [if_neg none] at held
    rw [FileTree.textAt?, held]

theorem Serves.append (first : Serves tree mid route asked made)
    (second : Serves mid left route more further) :
    Serves tree left route (asked ++ more) (made ++ further) := by
  obtain ⟨old, text, made_eq, held⟩ := first
  obtain ⟨new, again, further_eq, holds⟩ := second
  have between := textAt?_of_serves text made_eq held
  rw [between, Option.some.injEq] at again
  subst again
  refine ⟨old, text, by rw [accepted_append, made_eq, further_eq], ?_⟩
  rw [holds, insertAll_append]
  by_cases nothing : further = []
  · have unchanged := insertAll_of_accepted_nil (further_eq.symm.trans nothing)
    rw [if_pos nothing, held, nothing, List.append_nil, unchanged]
  · rw [if_neg nothing, if_neg (by simp [nothing])]

/-- What is made and what is left depends on the additions to the file only. -/
theorem Serves.unique {other : FileTree} {others : List Addition}
    (serves : Serves tree left route asked made) (also : Serves tree other route asked others) :
    made = others ∧ left.contentAt? route = other.contentAt? route := by
  obtain ⟨old, text, rfl, held⟩ := serves
  obtain ⟨same, again, rfl, holds⟩ := also
  rw [text, Option.some.injEq] at again
  subst again
  exact ⟨rfl, held.trans holds.symm⟩

end Serves

/-- Additions to files were made, and no other files changed. The paths lead to the files in a tree
that has all their directories. -/
structure ServesAll (whole tree left : FileTree) (paths : List Path)
    (asked made : List Addition) : Prop where
  sublist : made.Sublist asked
  files : ∀ path ∈ paths, ∀ route, whole.place? path = some route →
    Serves tree left route (asked.filter (·.file == path)) (made.filter (·.file == path))
  others : ∀ route, (∀ path ∈ paths, whole.place? path ≠ some route) →
    left.contentAt? route = tree.contentAt? route

theorem ServesAll.append {whole tree mid left : FileTree} {paths : List Path}
    {asked made more further : List Addition} (first : ServesAll whole tree mid paths asked made)
    (second : ServesAll whole mid left paths more further) :
    ServesAll whole tree left paths (asked ++ more) (made ++ further) := by
  refine ⟨first.sublist.append second.sublist, ?_, ?_⟩
  · intro path member route place
    rw [List.filter_append, List.filter_append]
    exact (first.files path member route place).append (second.files path member route place)
  · intro route nowhere
    rw [second.others route nowhere, first.others route nowhere]

/-- Additions to these files can be made in a tree that lacks some directories of another one: what
is read at a path is the text of the file that it leads to in the other tree. -/
structure Ready (whole tree : FileTree) (paths : List Path) : Prop where
  keeps : tree.Keeps whole
  files : ∀ path ∈ paths, ∃ route held, whole.place? path = some route ∧
    whole.at? route = some (.file held) ∧ (tree.textAt? route).isSome
  reads : ∀ path ∈ paths, ReadsPlace tree whole path

/-- Of one addition and what is made of it, nothing is for another file. -/
theorem filter_eq_nil_of_single {addition : Addition} {path : Path} {made : List Addition}
    (other : path ≠ addition.file) (sublist : made.Sublist [addition]) :
    made.filter (·.file == path) = [] := by
  refine List.filter_eq_nil_iff.mpr fun item member here => other ?_
  rw [← List.mem_singleton.mp (sublist.subset member), beq_iff_eq.mp here]

theorem filter_eq_self_of_single {addition : Addition} {made : List Addition}
    (sublist : made.Sublist [addition]) : made.filter (·.file == addition.file) = made := by
  refine List.filter_eq_self.mpr fun item member => ?_
  rw [List.mem_singleton.mp (sublist.subset member), beq_self_eq_true]

/-- Once one of the files has been edited, all are ready for more. -/
theorem Ready.of_edited {whole tree grown : FileTree} {paths : List Path} {path : Path}
    (ready : Ready whole tree paths) (keeps : tree.Keeps grown) (inner : grown.Keeps whole)
    (elsewhere : ∀ other ∈ paths, other ≠ path → ∀ route, whole.place? other = some route →
      grown.contentAt? route = tree.contentAt? route)
    (text : ∀ route, whole.place? path = some route → (grown.textAt? route).isSome)
    (reads : ReadsPlace grown whole path) : Ready whole grown paths := by
  refine ⟨inner, ?_, ?_⟩
  · intro other member
    obtain ⟨route, content, leads, there, readable⟩ := ready.files other member
    refine ⟨route, content, leads, there, ?_⟩
    by_cases same : other = path
    · exact text route (same ▸ leads)
    · rw [textAt?_congr (elsewhere other member same route leads)]
      exact readable
  · intro other member
    by_cases same : other = path
    · exact same ▸ reads
    · rcases ready.reads other member with there | empty
      · exact .inl (keeps.pathExists there)
      · refine .inr fun route leads => ?_
        rw [textAt?_congr (elsewhere other member same route leads), empty route leads]

section Ready

variable {whole tree : FileTree} {paths : List Path} (apart : NameApart whole paths)
include apart

/-- One addition is made, or is refused, and the files are ready for more. -/
theorem Ready.step (ready : Ready whole tree paths) {addition : Addition}
    (known : addition.file ∈ paths) :
    ∃ grown made, (∀ more, carryOutSingly tree (addition :: more) =
        ((carryOutSingly grown more).1, (carryOutSingly grown more).2.map (made ++ ·))) ∧
      Ready whole grown paths ∧ ServesAll whole tree grown paths [addition] made := by
  obtain ⟨route, held, place, stands, text⟩ := ready.files _ known
  obtain ⟨old, found⟩ := Option.isSome_iff_exists.mp text
  obtain ⟨grown, done, keeps, inner, frame, holds, reads⟩ :=
    editFile_of_place ready.keeps place stands found (ready.reads _ known) [addition] (by simp)
  have sublist := accepted_sublist old [addition]
  have elsewhere : ∀ path ∈ paths, path ≠ addition.file → ∀ other,
      whole.place? path = some other → grown.contentAt? other = tree.contentAt? other := by
    intro path member different other leads
    apply frame
    rintro rfl
    exact apart.place?_ne member known different leads place
  refine ⟨grown, accepted old [addition], carryOutSingly_of_editFile done, ?_, sublist, ?_, ?_⟩
  · refine ready.of_edited keeps inner elsewhere ?_ reads
    intro other leads
    rw [place, Option.some.injEq] at leads
    rw [← leads, textAt?_of_serves found rfl holds]
    rfl
  · intro path member other leads
    by_cases same : path = addition.file
    · subst same
      rw [place, Option.some.injEq] at leads
      rw [← leads, filter_eq_self_of_single (.refl _), filter_eq_self_of_single sublist]
      exact ⟨old, found, rfl, holds⟩
    · rw [filter_eq_nil_of_single same (.refl _), filter_eq_nil_of_single same sublist]
      obtain ⟨_, _, alsoLeads, _, readable⟩ := ready.files path member
      rw [leads, Option.some.injEq] at alsoLeads
      exact .of_same (alsoLeads ▸ readable) (elsewhere path member same other leads)
  · intro other nowhere
    apply frame
    rintro rfl
    exact nowhere _ known place

/-- Additions to files that are ready can be carried out one at a time, in any order. -/
theorem carryOutSingly_of_ready (ready : Ready whole tree paths) {order : List Addition}
    (known : ∀ addition ∈ order, addition.file ∈ paths) :
    ∃ left made, carryOutSingly tree order = (left, .ok made) ∧
      ServesAll whole tree left paths order made := by
  induction order generalizing tree with
  | nil =>
    refine ⟨tree, [], rfl, .slnil, ?_, fun _ _ => rfl⟩
    intro path member route place
    obtain ⟨_, _, leads, _, readable⟩ := ready.files path member
    rw [place, Option.some.injEq] at leads
    exact .of_same (leads ▸ readable) rfl
  | cons addition more ih =>
    rw [List.forall_mem_cons] at known
    obtain ⟨grown, made, first, still, served⟩ := ready.step apart known.1
    obtain ⟨left, rest, done, serves⟩ := ih still known.2
    refine ⟨left, made ++ rest, ?_, served.append serves⟩
    rw [first, done]
    rfl

end Ready

/-- The same additions to every file leave the same files. -/
theorem ServesAll.unique {whole tree left other : FileTree} {paths : List Path}
    {asked some made others : List Addition}
    (serves : ServesAll whole tree left paths asked made)
    (also : ServesAll whole tree other paths some others)
    (places : ∀ path ∈ paths, (whole.place? path).isSome)
    (known : ∀ addition ∈ asked, addition.file ∈ paths)
    (alsoKnown : ∀ addition ∈ some, addition.file ∈ paths)
    (same : ∀ path ∈ paths, asked.filter (·.file == path) = some.filter (·.file == path)) :
    made.Perm others ∧ left.SameFiles other := by
  have alike : ∀ path ∈ paths, ∀ route, whole.place? path = .some route →
      made.filter (·.file == path) = others.filter (·.file == path) ∧
        left.contentAt? route = other.contentAt? route := by
    intro path member route place
    have here := also.files path member route place
    rw [← same path member] at here
    exact (serves.files path member route place).unique here
  constructor
  · refine perm_of_filter_eq paths ?_ ?_ ?_
    · exact fun addition member => known addition (serves.sublist.subset member)
    · exact fun addition member => alsoKnown addition (also.sublist.subset member)
    · intro path member
      obtain ⟨route, place⟩ := Option.isSome_iff_exists.mp (places path member)
      exact (alike path member route place).1
  · intro route
    by_cases target : ∃ path ∈ paths, whole.place? path = .some route
    · obtain ⟨path, member, place⟩ := target
      exact (alike path member route place).2.symm
    · push Not at target
      rw [serves.others route target, also.others route target]

/-! ## Together and one at a time -/

/-- What additions left is what they leave one at a time in an order, and what was done is what was
made then. The file of additions that were all refused is as it was, and so is every file to which
no addition leads. -/
structure RunsSingly (tree left : FileTree) (order made : List Addition) (stats : EditStats) :
    Prop where
  run : ∃ single, carryOutSingly tree order = (single, .ok made) ∧ single.SameFiles left
  done : stats = .ofMade order made
  counted : stats.processed = order.length ∧ stats.processed = stats.skipped + stats.applied
  refused : ∀ addition ∈ order, (∀ other ∈ made, other.file ≠ addition.file) →
    ∀ route, left.place? addition.file = some route →
      left.contentAt? route = tree.contentAt? route
  untouched : ∀ route, (∀ addition ∈ made, left.place? addition.file ≠ some route) →
    left.contentAt? route = tree.contentAt? route

theorem EditStats.ofMade_of_perm {asked order made others : List Addition}
    (perm : asked.Perm order) (alsoPerm : made.Perm others) :
    EditStats.ofMade asked made = .ofMade order others := by
  have files : (distinct (made.map (·.file))).length = (distinct (others.map (·.file))).length :=
    length_distinct_congr fun _ => (alsoPerm.map _).mem_iff
  rw [ofMade, ofMade, perm.length_eq, alsoPerm.length_eq, files]

/-- Where all files hold their additions, these can be made again in the old tree, if every path is
read there as the file that it leads to. -/
theorem ready_of_holdsAll {tree left : FileTree} {additions : List Addition} {paths : List Path}
    (keeps : tree.Keeps left) (holds : ∀ path ∈ paths, HoldsAll tree left additions path)
    (reads : ∀ path ∈ paths, ReadsPlace tree left path) : Ready left tree paths := by
  refine ⟨keeps, ?_, reads⟩
  intro path member
  obtain ⟨route, old, place, read, held⟩ := holds path member
  refine ⟨route, _, place, FileTree.at?_of_contentAt? held, ?_⟩
  rcases read with text | ⟨missing, _⟩
  · rw [text]
    rfl
  · rcases reads path member with there | empty
    · rw [missing] at there
      cases there
    · rw [empty route place]
      rfl

section Batch

variable {tree left : FileTree} {additions : List Addition} {stats : EditStats}
  (done : carryOut tree additions = ⟨left, .ok stats⟩) (apart : NameApart left (targets additions))
include done apart

theorem runsSingly_byFile : ∃ made, RunsSingly tree left (byFile additions) made stats := by
  rcases carryOut_byFile tree additions with
    ⟨_, _, failed, _⟩ | ⟨_, made, succeeded, singly, sublist⟩
  · rw [failed] at done
    cases done
  · rw [succeeded, Edited.mk.injEq, Except.ok.injEq] at done
    obtain ⟨rfl, rfl⟩ := done
    have perm := perm_byFile additions
    have fewer := sublist.length_le
    rw [perm.length_eq] at fewer
    obtain ⟨_, untouched⟩ := frame_of_carryOutSingly singly
    refine ⟨made, ⟨_, singly, fun _ => rfl⟩, EditStats.ofMade_of_perm perm.symm (.refl made),
      ⟨perm.length_eq.symm, ?_⟩, ?_, untouched⟩
    · simp only [EditStats.ofMade]
      omega
    · intro addition member none route place
      apply untouched
      intro other inside
      refine apart.place?_ne ?_ ?_ (Ne.symm (none other inside)) place
      · exact mem_targets.mpr ⟨addition, mem_byFile.mp member, rfl⟩
      · exact mem_targets.mpr ⟨other, mem_byFile.mp (sublist.subset inside), rfl⟩

/-- The additions can be carried out in the order in which they are listed. -/
theorem runsSingly_listed (reads : ∀ path ∈ targets additions, ReadsPlace tree left path) :
    ∃ made, RunsSingly tree left additions made stats := by
  obtain ⟨made, together⟩ := runsSingly_byFile done apart
  obtain ⟨keeps, holds, _⟩ := exists_of_editFiles
    (fun path member => filter_ne_nil_of_mem_targets member) (nodup_targets additions) done apart
  have ready := ready_of_holdsAll keeps holds reads
  have known : ∀ addition ∈ additions, addition.file ∈ targets additions :=
    fun addition member => mem_targets.mpr ⟨addition, member, rfl⟩
  have alsoKnown : ∀ addition ∈ byFile additions, addition.file ∈ targets additions :=
    fun addition member => known addition (mem_byFile.mp member)
  obtain ⟨single, others, listed, serves⟩ := carryOutSingly_of_ready apart ready known
  obtain ⟨last, _, filed, also⟩ := carryOutSingly_of_ready apart ready alsoKnown
  obtain ⟨_, again, same⟩ := together.run
  rw [filed, Prod.mk.injEq, Except.ok.injEq] at again
  obtain ⟨rfl, rfl⟩ := again
  obtain ⟨perm, alike⟩ := also.unique serves (fun path member => by
      obtain ⟨_, _, place, _⟩ := holds path member
      rw [place]
      rfl) alsoKnown known fun path member => filter_byFile member
  have reordered := perm_byFile additions
  have run : single.SameFiles left := fun route => (same route).trans (alike route).symm
  refine ⟨others, ⟨single, listed, run⟩, ?_, ?_, ?_, ?_⟩
  · rw [together.done]
    exact EditStats.ofMade_of_perm reordered perm
  · rw [← reordered.length_eq]
    exact together.counted
  · intro addition member none
    exact together.refused addition (mem_byFile.mpr member)
      fun other inside => none other (perm.mem_iff.mp inside)
  · intro route nowhere
    exact together.untouched route fun addition inside => nowhere addition (perm.mem_iff.mp inside)

end Batch

/-- Additions that are carried out file by file, with different paths for different files, leave
what they leave one at a time in the order of the files. They leave the same in the order in which
they are listed, if every path is read as the file that it leads to in the end; so is every path
that goes nowhere up. -/
theorem batch_runs_singly {tree left : FileTree} {additions : List Addition} {stats : EditStats}
    (done : carryOut tree additions = ⟨left, .ok stats⟩)
    (apart : NameApart left (targets additions)) :
    (byFile additions).Perm additions ∧
      (∃ made, RunsSingly tree left (byFile additions) made stats) ∧
      ((∀ path ∈ targets additions, ReadsPlace tree left path) →
        ∃ made, RunsSingly tree left additions made stats) ∧
      (tree.WellFormed → (∀ path ∈ targets additions, upwards ∉ Path.pieces path) →
        ∃ made, RunsSingly tree left additions made stats) := by
  refine ⟨perm_byFile additions, runsSingly_byFile done apart, runsSingly_listed done apart, ?_⟩
  intro wellFormed plain
  apply runsSingly_listed done apart
  intro path member
  obtain ⟨_, holds, _⟩ := exists_of_editFiles
    (fun path member => filter_ne_nil_of_mem_targets member) (nodup_targets additions) done apart
  obtain ⟨route, _, place, _, held⟩ := holds path member
  exact readsPlace_of_plain wellFormed (plain path member) place (FileTree.at?_of_contentAt? held)

/-- Additions to two files by turns, to one that has their key and to one that is missing. -/
def byTurns : List Addition :=
  [⟨"b/n.properties".toList, "k".toList, "v".toList⟩,
    ⟨"m.properties".toList, "x".toList, "2".toList⟩,
    ⟨"b/n.properties".toList, "a".toList, "w".toList⟩,
    ⟨"b/n.properties".toList, "k".toList, "z".toList⟩]

theorem targets_byTurns :
    targets byTurns = ["b/n.properties".toList, "m.properties".toList] :=
  targets_eq (by unfold Increasing; decide) (by decide) (by decide)

theorem batch_runs_singly_byTurns :
    ∃ left, carryOut (oneFile "x=1\n") byTurns = ⟨left, .ok ⟨4, 2, 2, 1⟩⟩ ∧
      NameApart left (targets byTurns) ∧ (oneFile "x=1\n").WellFormed ∧
      (∀ path ∈ targets byTurns, upwards ∉ Path.pieces path) ∧
      ∃ made, RunsSingly (oneFile "x=1\n") left byTurns made ⟨4, 2, 2, 1⟩ := by
  have wellFormed := wellFormed_oneFile "x=1\n"
  have plain : ∀ path ∈ targets byTurns, upwards ∉ Path.pieces path := by
    rw [targets_byTurns]
    decide
  rcases ended : carryOut (oneFile "x=1\n") byTurns with ⟨left, result⟩
  have whole := ended
  rw [carryOut, targets_byTurns] at whole
  have success : result = .ok ⟨4, 2, 2, 1⟩ := by
    rw [show result = _ from (congrArg Edited.result whole).symm]
    exact FileTree.eq_ok_of_toOption (by decide +kernel)
  have apart : NameApart left (targets byTurns) := by
    rw [show left = _ from (congrArg Edited.tree whole).symm, targets_byTurns]
    decide +kernel
  subst success
  exact ⟨left, rfl, apart, wellFormed, plain,
    (batch_runs_singly ended apart).2.2.2 wellFormed plain⟩

/-- A file in a directory that is made, and one whose path goes up again from this directory. -/
def upAgain : List Addition :=
  [⟨"a/n.properties".toList, "k".toList, "v".toList⟩,
    ⟨"a/../m.properties".toList, "k".toList, "v".toList⟩]

theorem targets_upAgain :
    targets upAgain = ["a/../m.properties".toList, "a/n.properties".toList] :=
  targets_eq (by unfold Increasing; decide) (by decide) (by decide)

/-- The file that the path leads to loses its line if it is written before the directory is made:
the order of the files matters. -/
theorem order_of_files_loses_lines :
    let left := (edit (oneFile "x=1\n") upAgain).tree
    let single := (carryOutSingly (oneFile "x=1\n") upAgain).1
    (edit (oneFile "x=1\n") upAgain).result = .ok ⟨2, 0, 2, 2⟩ ∧
      additions upAgain = upAgain ∧ NameApart left (targets upAgain) ∧
      carryOutSingly (oneFile "x=1\n") upAgain = (single, .ok upAgain) ∧
      left.contentAt? ["m.properties".toList] = some (.text "k=v\n".toList) ∧
      single.contentAt? ["m.properties".toList] = some (.text "k=v\nx=1\n".toList) ∧
      ¬∃ made, RunsSingly (oneFile "x=1\n") left upAgain made ⟨2, 0, 2, 2⟩ := by
  intro left single
  have same : additions upAgain = upAgain := by decide +kernel
  have whole : edit (oneFile "x=1\n") upAgain = editFiles (oneFile "x=1\n") upAgain
      ["a/../m.properties".toList, "a/n.properties".toList] := by
    rw [edit_eq_carryOut, same, carryOut, targets_upAgain]
  have success : (edit (oneFile "x=1\n") upAgain).result = .ok ⟨2, 0, 2, 2⟩ := by
    rw [whole]
    exact FileTree.eq_ok_of_toOption (by decide +kernel)
  have apart : NameApart left (targets upAgain) := by
    rw [show left = _ from congrArg Edited.tree whole, targets_upAgain]
    decide +kernel
  have run : carryOutSingly (oneFile "x=1\n") upAgain = (single, .ok upAgain) :=
    Prod.ext rfl (FileTree.eq_ok_of_toOption (by decide +kernel))
  have lost : left.contentAt? ["m.properties".toList] = some (.text "k=v\n".toList) := by
    rw [show left = _ from congrArg Edited.tree whole]
    decide +kernel
  have kept : single.contentAt? ["m.properties".toList] = some (.text "k=v\nx=1\n".toList) := by
    decide +kernel
  refine ⟨success, same, apart, run, lost, kept, ?_⟩
  rintro ⟨made, runs⟩
  obtain ⟨other, again, alike⟩ := runs.run
  rw [run, Prod.mk.injEq] at again
  have held := alike ["m.properties".toList]
  rw [← again.1, lost, kept] at held
  exact absurd held (by decide)

end MessageKeys.Properties
