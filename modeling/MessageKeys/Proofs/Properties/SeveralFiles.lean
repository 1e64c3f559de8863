import MessageKeys.Proofs.Properties.OneFile
import MessageKeys.Proofs.Sorting

/-!
Additions to several files.

Where different paths lead to different files, the additions to one of them do not touch the others.
Hence every file holds in the end all additions to it, inserted into its old text, or into an empty
one if the path led nowhere (`exists_of_editFiles`).
-/
namespace MessageKeys.Properties

/-- Carries out additions, file by file. -/
def carryOut (tree : FileTree) (additions : List Addition) : Edited :=
  editFiles tree additions (targets additions)

theorem edit_eq_carryOut (tree : FileTree) (requests : List Addition) :
    edit tree requests = carryOut tree (additions requests) := rfl

/-! ## The files of additions -/

theorem mem_targets {additions : List Addition} {path : Path} :
    path ∈ targets additions ↔ ∃ addition ∈ additions, addition.file = path := by
  rw [targets, mem_distinct, List.mem_mergeSort, List.mem_map]

theorem nodup_targets (additions : List Addition) : (targets additions).Nodup := nodup_distinct _

theorem increasing_targets (additions : List Addition) :
    Increasing compare (targets additions) := by
  have kept := distinctBy_sublist id [] ((additions.map (·.file)).mergeSort Text.le)
  refine increasing_of_apart ((pairwise_mergeSort_order compare _).sublist kept) ?_
  refine (nodup_targets additions).imp ?_
  intro path other different tied
  exact different (Std.LawfulEqOrd.eq_of_compare tied)

/-- The files of additions are the paths that have some, in order. -/
theorem targets_eq {additions : List Addition} {paths : List Path}
    (up : Increasing compare paths)
    (asked : ∀ path ∈ paths, ∃ addition ∈ additions, addition.file = path)
    (known : ∀ addition ∈ additions, addition.file ∈ paths) : targets additions = paths := by
  refine eq_of_increasing (increasing_targets additions) up fun path => ?_
  rw [mem_targets]
  constructor
  · rintro ⟨addition, member, rfl⟩
    exact known addition member
  · exact asked path

theorem file_of_mem_filter {additions : List Addition} {path : Path} {addition : Addition}
    (member : addition ∈ additions.filter (·.file == path)) : addition.file = path := by
  simpa using (List.mem_filter.mp member).2

/-- The files of additions have additions. -/
theorem filter_ne_nil_of_mem_targets {additions : List Addition} {path : Path}
    (member : path ∈ targets additions) : additions.filter (·.file == path) ≠ [] := by
  obtain ⟨addition, inside, same⟩ := mem_targets.mp member
  refine List.ne_nil_of_mem (a := addition) (List.mem_filter.mpr ⟨inside, ?_⟩)
  rw [beq_iff_eq, same]

/-! ## What the files hold -/

/-- Different paths lead to different files. -/
def NameApart (tree : FileTree) (paths : List Path) : Prop :=
  ∀ path ∈ paths, ∀ other ∈ paths, path ≠ other →
    (tree.place? path).isSome → tree.place? path ≠ tree.place? other

instance (tree : FileTree) (paths : List Path) : Decidable (NameApart tree paths) :=
  inferInstanceAs (Decidable (∀ path ∈ paths, ∀ other ∈ paths, path ≠ other →
    (tree.place? path).isSome → tree.place? path ≠ tree.place? other))

/-- The file that a path leads to holds all additions to it. They are inserted into its old text, or
into an empty one if the path led nowhere. -/
def HoldsAll (tree left : FileTree) (additions : List Addition) (path : Path) : Prop :=
  ∃ route old, left.place? path = some route ∧
    (tree.textAt? route = some old ∨ tree.pathExists path = false ∧ old = []) ∧
    left.contentAt? route = some (.text (insertAll old (additions.filter (·.file == path))).1)

theorem NameApart.of_subset {tree : FileTree} {paths fewer : List Path}
    (apart : NameApart tree paths) (subset : fewer ⊆ paths) : NameApart tree fewer :=
  fun path member other alsoMember => apart path (subset member) other (subset alsoMember)

/-- No other path leads to the file of a path. -/
theorem NameApart.place?_ne {tree : FileTree} {paths : List Path} {path other : Path}
    {route : Route} (apart : NameApart tree paths) (member : path ∈ paths)
    (alsoMember : other ∈ paths) (different : path ≠ other)
    (place : tree.place? path = some route) : tree.place? other ≠ some route := by
  have ne := apart path member other alsoMember different (by rw [place]; rfl)
  rw [place] at ne
  exact Ne.symm ne

theorem textAt?_congr {tree left : FileTree} {route : Route}
    (same : left.contentAt? route = tree.contentAt? route) :
    left.textAt? route = tree.textAt? route := by
  rw [FileTree.textAt?, FileTree.textAt?, same]

/-- What a file holds it also holds with respect to an earlier tree with the same old text. -/
theorem HoldsAll.of_earlier {tree mid left : FileTree} {additions : List Addition} {path : Path}
    (holds : HoldsAll mid left additions path) (keeps : tree.Keeps mid)
    (same : ∀ route, left.place? path = some route →
      mid.contentAt? route = tree.contentAt? route) : HoldsAll tree left additions path := by
  obtain ⟨route, old, place, read, held⟩ := holds
  refine ⟨route, old, place, ?_, held⟩
  rcases read with found | ⟨missing, empty⟩
  · exact .inl (textAt?_congr (same route place) ▸ found)
  · refine .inr ⟨?_, empty⟩
    rw [← Bool.not_eq_true] at missing ⊢
    exact fun there => missing (keeps.pathExists there)

/-- Where all files have been edited, the first one has been, and then the others. -/
theorem editFiles_cons_eq_ok {tree left : FileTree} {additions : List Addition} {path : Path}
    {more : List Path} {stats : EditStats}
    (done : editFiles tree additions (path :: more) = ⟨left, .ok stats⟩) :
    ∃ mid first rest, editFile tree path (additions.filter (·.file == path)) = ⟨mid, .ok first⟩ ∧
      editFiles mid additions more = ⟨left, .ok rest⟩ := by
  rw [editFiles] at done
  rcases edited : editFile tree path (additions.filter (·.file == path)) with ⟨mid, result⟩
  rw [edited] at done
  cases result with
  | error error => cases done
  | ok first =>
    rcases others : editFiles mid additions more with ⟨last, result⟩
    simp only [others, Edited.mk.injEq] at done
    obtain ⟨rfl, done⟩ := done
    cases result with
    | error error => cases done
    | ok rest => exact ⟨mid, first, rest, rfl, others⟩

/-- What additions to several files leave: every file holds all of its own, and no other file
changes. -/
theorem exists_of_editFiles {tree left : FileTree} {additions : List Addition} {paths : List Path}
    {stats : EditStats} (asked : ∀ path ∈ paths, additions.filter (·.file == path) ≠ [])
    (nodup : paths.Nodup) (done : editFiles tree additions paths = ⟨left, .ok stats⟩)
    (apart : NameApart left paths) :
    tree.Keeps left ∧ (∀ path ∈ paths, HoldsAll tree left additions path) ∧
      ∀ route, (∀ path ∈ paths, left.place? path ≠ some route) →
        left.contentAt? route = tree.contentAt? route := by
  induction paths generalizing tree stats with
  | nil =>
    cases done
    exact ⟨.refl left, by simp, fun _ _ => rfl⟩
  | cons path more ih =>
    rw [List.forall_mem_cons] at asked
    rw [List.nodup_cons] at nodup
    obtain ⟨mid, first, rest, edited, others⟩ := editFiles_cons_eq_ok done
    obtain ⟨keeps, route, old, place, read, held, frame⟩ :=
      exists_of_editFile edited asked.1 fun _ member => file_of_mem_filter member
    obtain ⟨further, holds, still⟩ :=
      ih asked.2 nodup.2 others (apart.of_subset (List.subset_cons_self path more))
    have here := further.place? place
    -- No other path leads to the file that was edited first.
    have elsewhere : ∀ other ∈ more, left.place? other ≠ some route := by
      intro other member
      refine apart.place?_ne List.mem_cons_self (List.mem_cons_of_mem _ member) ?_ here
      rintro rfl
      exact nodup.1 member
    refine ⟨keeps.trans further, ?_, ?_⟩
    · rw [List.forall_mem_cons]
      refine ⟨⟨route, old, here, read, by rw [still route elsewhere, held]⟩, ?_⟩
      intro other member
      refine (holds other member).of_earlier keeps fun place leads => frame place ?_
      rintro rfl
      exact elsewhere other member leads
    · intro place nowhere
      rw [List.forall_mem_cons] at nowhere
      have different : place ≠ route := by
        rintro rfl
        exact nowhere.1 here
      rw [still place nowhere.2, frame place different]

end MessageKeys.Properties
