import MessageKeys.Proofs.Properties.SeveralFiles

/-!
Additions to several files, file by file and one at a time.

Carried out file by file, in the order of the paths, additions are exactly those carried out one at
a time in that order, also where a failure ends the work (`carryOut_byFile`). Only the files of
additions that were made change then (`frame_of_carryOutSingly`): a file whose additions are all
refused is neither written nor made.
-/
namespace MessageKeys.Properties

/-- The additions in the order of their files. -/
def byFile (additions : List Addition) : List Addition :=
  (targets additions).flatMap fun path => additions.filter (·.file == path)

/-- The additions to one file among those that are put in the order of files. -/
theorem filter_flatMap_files {additions : List Addition} {paths : List Path} {path : Path}
    (nodup : paths.Nodup) :
    (paths.flatMap fun other => additions.filter (·.file == other)).filter (·.file == path) =
      if path ∈ paths then additions.filter (·.file == path) else [] := by
  induction paths with
  | nil => rfl
  | cons first more ih =>
    rw [List.nodup_cons] at nodup
    rw [List.flatMap_cons, List.filter_append, ih nodup.2, List.filter_filter]
    by_cases same : path = first
    · subst same
      rw [if_neg nodup.1, if_pos List.mem_cons_self, List.append_nil]
      simp
    · have none : (additions.filter fun addition =>
          addition.file == path && addition.file == first) = [] := by
        rw [List.filter_eq_nil_iff]
        intro addition _ both
        rw [Bool.and_eq_true, beq_iff_eq, beq_iff_eq] at both
        exact same (both.1.symm.trans both.2)
      rw [none, List.nil_append]
      simp [same]

theorem filter_byFile {additions : List Addition} {path : Path}
    (member : path ∈ targets additions) :
    (byFile additions).filter (·.file == path) = additions.filter (·.file == path) := by
  rw [byFile, filter_flatMap_files (nodup_targets additions), if_pos member]

theorem mem_byFile {additions : List Addition} {addition : Addition} :
    addition ∈ byFile additions ↔ addition ∈ additions := by
  rw [byFile, List.mem_flatMap]
  constructor
  · rintro ⟨path, _, inside⟩
    exact (List.mem_filter.mp inside).1
  · intro inside
    have target : addition.file ∈ targets additions := mem_targets.mpr ⟨addition, inside, rfl⟩
    exact ⟨addition.file, target, List.mem_filter.mpr ⟨inside, beq_self_eq_true _⟩⟩

/-- Lists with the same additions to every file are permutations of each other. -/
theorem perm_of_filter_eq (paths : List Path) {some other : List Addition}
    (known : ∀ addition ∈ some, addition.file ∈ paths)
    (alsoKnown : ∀ addition ∈ other, addition.file ∈ paths)
    (same : ∀ path ∈ paths, some.filter (·.file == path) = other.filter (·.file == path)) :
    some.Perm other := by
  rw [List.perm_iff_count]
  intro addition
  by_cases listed : addition.file ∈ paths
  · have counted : ∀ items : List Addition,
        (items.filter (·.file == addition.file)).count addition = items.count addition :=
      fun _ => List.count_filter (beq_self_eq_true _)
    rw [← counted some, same _ listed, counted other]
  · rw [List.count_eq_zero.mpr fun member => listed (known addition member),
      List.count_eq_zero.mpr fun member => listed (alsoKnown addition member)]

theorem perm_byFile (additions : List Addition) : (byFile additions).Perm additions := by
  refine perm_of_filter_eq (targets additions) ?_ ?_ fun path member => filter_byFile member
  · intro addition member
    exact mem_targets.mpr ⟨addition, mem_byFile.mp member, rfl⟩
  · intro addition member
    exact mem_targets.mpr ⟨addition, member, rfl⟩

/-! ## The order of the files -/

theorem carryOutSingly_append (tree : FileTree) (front back : List Addition) :
    carryOutSingly tree (front ++ back) =
      match carryOutSingly tree front with
      | (left, .error error) => (left, .error error)
      | (left, .ok made) =>
        ((carryOutSingly left back).1, (carryOutSingly left back).2.map (made ++ ·)) := by
  induction front generalizing tree with
  | nil =>
    rw [List.nil_append, carryOutSingly]
    dsimp only
    rcases carryOutSingly tree back with ⟨left, result⟩
    cases result <;> rfl
  | cons addition more ih =>
    rw [List.cons_append, carryOutSingly, carryOutSingly]
    rcases editFile tree addition.file [addition] with ⟨left, result⟩
    cases result with
    | error error => rfl
    | ok stats =>
      dsimp only
      rw [ih left]
      rcases carryOutSingly left more with ⟨last, result⟩
      cases result with
      | error error => rfl
      | ok made =>
        dsimp only [Except.map]
        rcases carryOutSingly last back with ⟨final, result⟩
        cases result <;> simp

/-- What was done to one file and then to others. -/
theorem EditStats.ofMade_append {asked made more others : List Addition}
    (sublist : made.Sublist asked) (alsoSublist : others.Sublist more)
    (apart : ∀ addition ∈ asked, ∀ other ∈ more, addition.file ≠ other.file) :
    (EditStats.ofMade asked made).add (.ofMade more others) =
      .ofMade (asked ++ more) (made ++ others) := by
  have files : (distinct ((made ++ others).map (·.file))).length =
      (distinct (made.map (·.file))).length + (distinct (others.map (·.file))).length := by
    rw [List.map_append]
    apply length_distinct_append
    intro file member again
    obtain ⟨addition, inside, rfl⟩ := List.mem_map.mp member
    obtain ⟨other, there, same⟩ := List.mem_map.mp again
    exact apart addition (sublist.subset inside) other (alsoSublist.subset there) same.symm
  have first := sublist.length_le
  have second := alsoSublist.length_le
  simp only [EditStats.ofMade, EditStats.add, files, List.length_append, EditStats.mk.injEq,
    true_and, and_true]
  omega

/-- Additions that are carried out file by file are carried out one at a time in the order of the
files. -/
theorem editFiles_singly {additions : List Addition} {paths : List Path} (nodup : paths.Nodup)
    (asked : ∀ path ∈ paths, additions.filter (·.file == path) ≠ []) (tree : FileTree) :
    let order := paths.flatMap fun path => additions.filter (·.file == path)
    (∃ left error, editFiles tree additions paths = ⟨left, .error error⟩ ∧
      carryOutSingly tree order = (left, .error error)) ∨
    ∃ left made, editFiles tree additions paths = ⟨left, .ok (.ofMade order made)⟩ ∧
      carryOutSingly tree order = (left, .ok made) ∧ made.Sublist order := by
  induction paths generalizing tree with
  | nil => exact .inr ⟨tree, [], rfl, rfl, .slnil⟩
  | cons path more ih =>
    rw [List.nodup_cons] at nodup
    rw [List.forall_mem_cons] at asked
    intro order
    have order_eq : order = additions.filter (·.file == path) ++
        more.flatMap fun path => additions.filter (·.file == path) := List.flatMap_cons
    rw [order_eq, carryOutSingly_append, editFiles]
    rcases editFile_singly asked.1 fun _ member => file_of_mem_filter member with
      ⟨left, error, failed, singly⟩ | ⟨left, content, _, done, singly⟩
    · rw [failed, singly]
      exact .inl ⟨left, error, rfl, rfl⟩
    · rw [done, singly]
      dsimp only
      rcases ih nodup.2 asked.2 left with
        ⟨last, error, failed, later⟩ | ⟨last, made, finished, later, sublist⟩
      · rw [failed, later]
        exact .inl ⟨last, error, rfl, rfl⟩
      · rw [finished, later]
        have first := accepted_sublist content (additions.filter (·.file == path))
        refine .inr ⟨last, _, ?_, rfl, first.append sublist⟩
        rw [← EditStats.ofMade_append first sublist ?_]
        · rfl
        · intro addition member other inside same
          obtain ⟨file, listed, there⟩ := List.mem_flatMap.mp inside
          rw [file_of_mem_filter member, file_of_mem_filter there] at same
          exact nodup.1 (same ▸ listed)

/-- Additions that are carried out in the order of their files, together for each file or one at a
time: both fail alike, or both succeed and leave the same tree. -/
theorem carryOut_byFile (tree : FileTree) (additions : List Addition) :
    (∃ left error, carryOut tree additions = ⟨left, .error error⟩ ∧
      carryOutSingly tree (byFile additions) = (left, .error error)) ∨
    ∃ left made, carryOut tree additions = ⟨left, .ok (.ofMade additions made)⟩ ∧
      carryOutSingly tree (byFile additions) = (left, .ok made) ∧
      made.Sublist (byFile additions) := by
  have length := (perm_byFile additions).length_eq
  rcases editFiles_singly (nodup_targets additions)
      (fun path member => filter_ne_nil_of_mem_targets member) tree with
    failed | ⟨left, made, done, singly, sublist⟩
  · exact .inl failed
  · refine .inr ⟨left, made, ?_, singly, sublist⟩
    rw [carryOut, done, EditStats.ofMade, ← byFile, length]
    rfl

/-- Only files that additions were made to change. -/
theorem frame_of_carryOutSingly {tree left : FileTree} {order made : List Addition}
    (done : carryOutSingly tree order = (left, .ok made)) :
    tree.Keeps left ∧ ∀ route, (∀ addition ∈ made, left.place? addition.file ≠ some route) →
      left.contentAt? route = tree.contentAt? route := by
  induction order generalizing tree made with
  | nil =>
    cases done
    exact ⟨.refl left, fun _ _ => rfl⟩
  | cons addition more ih =>
    have own : ∀ other ∈ [addition], other.file = addition.file := by simp
    rcases edited : editFile tree addition.file [addition] with ⟨mid, result⟩
    cases result with
    | error error =>
      rw [carryOutSingly, edited] at done
      cases done
    | ok stats =>
      obtain ⟨content, _, rfl, idle⟩ := editFile_eq_ok edited own
      rw [carryOutSingly_of_editFile edited] at done
      rcases others : carryOutSingly mid more with ⟨last, result⟩
      simp only [others, Prod.mk.injEq] at done
      obtain ⟨rfl, done⟩ := done
      cases result with
      | error error => cases done
      | ok rest =>
        simp only [Except.map, Except.ok.injEq] at done
        subst done
        obtain ⟨further, still⟩ := ih others
        rcases accepted_single content addition with none | one
        · rw [idle none] at further still
          rw [none, List.nil_append]
          exact ⟨further, still⟩
        · obtain ⟨keeps, route, old, place, _, _, frame⟩ :=
            exists_of_editFile edited (List.cons_ne_nil _ _) own
          refine ⟨keeps.trans further, ?_⟩
          intro other nowhere
          rw [one, List.singleton_append, List.forall_mem_cons] at nowhere
          have different : other ≠ route := by
            rintro rfl
            exact nowhere.1 (further.place? place)
          rw [still other nowhere.2, frame other different]

end MessageKeys.Properties
