import MessageKeys.Proofs.Properties.SeveralFiles

/-!
Additions to several files that are stopped by a failure.

The failure comes from one file. The files before it, in the order of their paths, have been dealt
with as if the others had not been asked for (`editFiles_eq_error`, `carryOut_earlier`), and nothing
is changed in it or after it: no file holds only some of its additions.
-/
namespace MessageKeys.Properties

theorem NameApart.of_keeps {tree left : FileTree} {paths : List Path}
    (apart : NameApart left paths) (keeps : tree.Keeps left) : NameApart tree paths := by
  intro path member other alsoMember different placed same
  obtain ⟨route, place⟩ := Option.isSome_iff_exists.mp placed
  have leads := keeps.place? place
  have alsoLeads := keeps.place? (same.symm.trans place)
  exact apart.place?_ne member alsoMember different leads alsoLeads

/-- A file that holds its additions still holds them where no file has changed since. -/
theorem HoldsAll.of_sameFiles {tree mid left : FileTree} {additions : List Addition} {path : Path}
    (holds : HoldsAll tree mid additions path) (keeps : mid.Keeps left)
    (same : mid.SameFiles left) : HoldsAll tree left additions path := by
  obtain ⟨route, old, place, read, held⟩ := holds
  exact ⟨route, old, keeps.place? place, read, (same route).trans held⟩

/-- A failure comes from one file, after all files before it have been edited. -/
theorem editFiles_eq_error {tree left : FileTree} {additions : List Addition} {paths : List Path}
    {error : EditError} (failed : editFiles tree additions paths = ⟨left, .error error⟩) :
    ∃ before path after mid stats, paths = before ++ path :: after ∧
      editFiles tree additions before = ⟨mid, .ok stats⟩ ∧
      editFile mid path (additions.filter (·.file == path)) = ⟨left, .error error⟩ := by
  induction paths generalizing tree with
  | nil => cases failed
  | cons path more ih =>
    rw [editFiles] at failed
    rcases edited : editFile tree path (additions.filter (·.file == path)) with ⟨grown, result⟩
    rw [edited] at failed
    cases result with
    | error cause =>
      cases failed
      exact ⟨[], path, more, tree, .zero, rfl, rfl, edited⟩
    | ok stats =>
      rcases others : editFiles grown additions more with ⟨last, result⟩
      simp only [others, Edited.mk.injEq] at failed
      obtain ⟨rfl, failed⟩ := failed
      cases result with
      | ok rest => cases failed
      | error cause =>
        cases failed
        obtain ⟨before, stopped, after, mid, rest, rfl, done, reason⟩ := ih others
        refine ⟨path :: before, stopped, after, mid, stats.add rest, rfl, ?_, reason⟩
        simp only [editFiles, edited, done, Except.map]

/-- Only the additions to the files count. -/
theorem editFiles_congr {additions others : List Addition} {paths : List Path}
    (same : ∀ path ∈ paths, additions.filter (·.file == path) = others.filter (·.file == path))
    (tree : FileTree) : editFiles tree additions paths = editFiles tree others paths := by
  induction paths generalizing tree with
  | nil => rfl
  | cons path more ih =>
    rw [List.forall_mem_cons] at same
    rw [editFiles, editFiles, same.1]
    rcases editFile tree path (others.filter (·.file == path)) with ⟨left, result⟩
    cases result with
    | error error => rfl
    | ok stats => simp only [ih same.2 left]

/-- The additions to files before a path. -/
def earlier (additions : List Addition) (path : Path) : List Addition :=
  additions.filter fun addition => compare addition.file path = .lt

section Earlier

variable {additions : List Addition} {before after : List Path} {path : Path}

theorem mem_earlier {addition : Addition} :
    addition ∈ earlier additions path ↔
      addition ∈ additions ∧ compare addition.file path = .lt := by
  rw [earlier, List.mem_filter, decide_eq_true_iff]

theorem filter_earlier {other : Path} (lower : compare other path = .lt) :
    (earlier additions path).filter (·.file == other) = additions.filter (·.file == other) := by
  rw [earlier, List.filter_filter]
  refine List.filter_congr fun addition _ => ?_
  by_cases same : addition.file = other
  · simp [same, lower]
  · simp [same]

/-- A path divides the files of additions: those in front of it are the lower ones. -/
theorem mem_before_iff (divided : targets additions = before ++ path :: after) {other : Path} :
    other ∈ before ↔ other ∈ targets additions ∧ compare other path = .lt := by
  have up := increasing_targets additions
  rw [divided, Increasing, List.pairwise_append, List.pairwise_cons] at up
  obtain ⟨_, ⟨higher, _⟩, across⟩ := up
  rw [divided, List.mem_append, List.mem_cons]
  constructor
  · intro member
    exact ⟨.inl member, across other member path List.mem_cons_self⟩
  · rintro ⟨member | rfl | member, lower⟩
    · exact member
    · have tied : compare other other = .eq := Std.ReflCmp.compare_self
      rw [tied] at lower
      cases lower
    · rw [Std.OrientedCmp.gt_of_lt (higher other member)] at lower
      cases lower

theorem targets_earlier (divided : targets additions = before ++ path :: after) :
    targets (earlier additions path) = before := by
  have up := increasing_targets additions
  rw [divided, Increasing, List.pairwise_append] at up
  apply targets_eq up.1
  · intro other member
    obtain ⟨inside, lower⟩ := (mem_before_iff divided).mp member
    obtain ⟨addition, there, rfl⟩ := mem_targets.mp inside
    exact ⟨addition, mem_earlier.mpr ⟨there, lower⟩, rfl⟩
  · intro addition member
    obtain ⟨inside, lower⟩ := mem_earlier.mp member
    exact (mem_before_iff divided).mpr ⟨mem_targets.mpr ⟨addition, inside, rfl⟩, lower⟩

/-- The files before a path are edited as if the others had not been asked for. -/
theorem carryOut_earlier (divided : targets additions = before ++ path :: after) (tree : FileTree) :
    carryOut tree (earlier additions path) = editFiles tree additions before := by
  rw [carryOut, targets_earlier divided]
  exact editFiles_congr
    (fun other member => filter_earlier ((mem_before_iff divided).mp member).2) tree

end Earlier

/-- What is left where the work was stopped at the file of a path. -/
structure StoppedAt (tree left : FileTree) (additions : List Addition) (error : EditError)
    (path : Path) : Prop where
  asked : path ∈ targets additions
  /-- The additions to the files before it succeed if they are carried out alone, and then the
  edit of this one fails. -/
  prior : ∃ mid stats, carryOut tree (earlier additions path) = ⟨mid, .ok stats⟩ ∧
    mid.SameFiles left ∧
    editFile mid path (additions.filter (·.file == path)) = ⟨left, .error error⟩
  before : ∀ other ∈ targets additions, compare other path = .lt →
    HoldsAll tree left additions other
  after : ∀ other ∈ targets additions, compare other path ≠ .lt →
    ∀ route, left.place? other = some route → left.contentAt? route = tree.contentAt? route
  others : ∀ route, (∀ other ∈ targets additions, left.place? other ≠ some route) →
    left.contentAt? route = tree.contentAt? route

/-- Additions that fail, with different paths for different files, have been made to all files
before some path, each with all of its own, and no other file has changed. -/
theorem failed_batch_leaves_prefix {tree left : FileTree} {additions : List Addition}
    {error : EditError} (failed : carryOut tree additions = ⟨left, .error error⟩)
    (apart : NameApart left (targets additions)) :
    ∃ path, StoppedAt tree left additions error path := by
  obtain ⟨before, path, after, mid, stats, divided, done, reason⟩ := editFiles_eq_error failed
  obtain ⟨same, further⟩ := editFile_eq_error reason fun _ member => file_of_mem_filter member
  have member : path ∈ targets additions := by simp [divided]
  have inside : before ⊆ targets additions := by simp [divided]
  have nodup : before.Nodup := (divided ▸ nodup_targets additions).sublist (by simp)
  obtain ⟨_, holds, frame⟩ := exists_of_editFiles
    (fun other earlier => filter_ne_nil_of_mem_targets (inside earlier)) nodup done
    ((apart.of_keeps further).of_subset inside)
  have unchanged : ∀ route, (∀ other ∈ before, left.place? other ≠ some route) →
      left.contentAt? route = tree.contentAt? route := by
    intro route nowhere
    rw [same route]
    exact frame route fun other earlier place => nowhere other earlier (further.place? place)
  refine ⟨path, member, ⟨mid, stats, ?_, same, reason⟩, ?_, ?_, ?_⟩
  · rw [carryOut_earlier divided, done]
  · intro other asked lower
    exact (holds other ((mem_before_iff divided).mpr ⟨asked, lower⟩)).of_sameFiles further same
  · intro other asked notLower route place
    refine unchanged route fun lower earlier => ?_
    refine apart.place?_ne asked (inside earlier) ?_ place
    rintro rfl
    exact notLower ((mem_before_iff divided).mp earlier).2
  · intro route nowhere
    exact unchanged route fun other earlier => nowhere other (inside earlier)

/-- Additions to a file, to one that is missing, and to a directory, by turns. -/
def aroundDirectory : List Addition :=
  [⟨"z.properties".toList, "k".toList, "v".toList⟩,
    ⟨"m.properties".toList, "b".toList, "2".toList⟩,
    ⟨"o.properties".toList, "k".toList, "v".toList⟩,
    ⟨"m.properties".toList, "a".toList, "1".toList⟩]

/-- A file, and a directory that has the name of one. -/
def fileAndDirectory : FileTree :=
  ⟨[(["m.properties".toList], .file (.text "x=1\n".toList)), (["o.properties".toList], .directory)]⟩

theorem targets_aroundDirectory :
    targets aroundDirectory =
      ["m.properties".toList, "o.properties".toList, "z.properties".toList] :=
  targets_eq (by unfold Increasing; decide) (by decide) (by decide)

theorem failed_batch_leaves_prefix_atDirectory :
    ∃ left error path, carryOut fileAndDirectory aroundDirectory = ⟨left, .error error⟩ ∧
      NameApart left (targets aroundDirectory) ∧
      StoppedAt fileAndDirectory left aroundDirectory error path := by
  rcases ended : carryOut fileAndDirectory aroundDirectory with ⟨left, result⟩
  have whole := ended
  rw [carryOut, targets_aroundDirectory] at whole
  have apart : NameApart left (targets aroundDirectory) := by
    rw [show left = _ from (congrArg Edited.tree whole).symm, targets_aroundDirectory]
    decide +kernel
  cases result with
  | ok stats =>
    have failed : (editFiles fileAndDirectory aroundDirectory
        ["m.properties".toList, "o.properties".toList, "z.properties".toList]).result.toOption =
          none := by
      decide +kernel
    rw [whole] at failed
    cases failed
  | error error =>
    obtain ⟨path, stopped⟩ := failed_batch_leaves_prefix ended apart
    exact ⟨left, error, path, rfl, apart, stopped⟩

end MessageKeys.Properties
