import MessageKeys.Proofs.Distinct
import MessageKeys.Proofs.FileTree.Writing
import MessageKeys.Proofs.Properties.Insertion
import MessageKeys.Properties.Edit

/-!
Several additions to one file.

One insertion gives its key its template and leaves every other key what it had
(`lookup_insert?`). By induction over the additions the first addition of a key counts, and only
where the content did not define the key before (`lookup_insertAll`). Requests that all name one
file are the edit of that file (`edit_of_one_file`).
-/
namespace MessageKeys.Properties

theorem lookup_eq_none_iff {content key : Text} :
    (definitions content).lookup key = none ↔ key ∉ (definitions content).map (·.1) := by
  rw [List.lookup_eq_none_iff]
  constructor
  · rintro absent inside
    obtain ⟨definition, member, same⟩ := List.mem_map.mp inside
    have different := absent definition member
    simp [same] at different
  · intro absent definition member
    rw [bne_iff_ne]
    intro same
    exact absent (List.mem_map.mpr ⟨definition, member, same.symm⟩)

/-- An insertion is refused exactly when the content has a template for the key. -/
theorem insert?_isSome_iff (content key value : Text) :
    (insert? content key value).isSome ↔ (definitions content).lookup key = none := by
  rw [lookup_eq_none_iff, ← @insert?_eq_none_iff content key value]
  cases insert? content key value <;> simp

/-- What one insertion changes. -/
theorem lookup_insert? {content key value changed : Text} (isKey : IsKey key)
    (isTemplate : IsTemplate value) (inserted : insert? content key value = some changed)
    (other : Text) :
    (definitions changed).lookup other =
      if other = key then some value else (definitions content).lookup other := by
  have fresh : (definitions content).lookup key = none := by
    rw [← insert?_isSome_iff content key value, inserted]
    rfl
  have parts : (definitions content).takeWhile (precedes key) ++
      (definitions content).dropWhile (precedes key) = definitions content :=
    List.takeWhile_append_dropWhile
  have divided := fun sought : Text => congrArg (List.lookup sought) parts
  simp only [List.lookup_append] at divided
  rw [definitions_insert? isKey isTemplate inserted, List.lookup_append, List.lookup_cons]
  by_cases same : other = key
  · subst same
    have before := divided other
    rw [fresh, Option.or_eq_none_iff] at before
    simp [before.1]
  · simp only [if_neg same, beq_false_of_ne same]
    exact divided other

theorem insertAll_of_none {content : Text} {addition : Addition}
    (refused : insert? content addition.key addition.value = none) (more : List Addition) :
    insertAll content (addition :: more) = insertAll content more := by
  rw [insertAll, refused]

theorem insertAll_of_some {content changed : Text} {addition : Addition}
    (inserted : insert? content addition.key addition.value = some changed)
    (more : List Addition) :
    (insertAll content (addition :: more)).1 = (insertAll changed more).1 := by
  rw [insertAll, inserted]

/-- What several insertions change. -/
theorem lookup_insertAll {content : Text} {additions : List Addition}
    (writable : ∀ addition ∈ additions, IsKey addition.key ∧ IsTemplate addition.value)
    (key : Text) :
    (definitions (insertAll content additions).1).lookup key =
      ((definitions content).lookup key).or
        ((additions.map fun addition => (addition.key, addition.value)).lookup key) := by
  induction additions generalizing content with
  | nil => simp [insertAll]
  | cons addition more ih =>
    obtain ⟨isKey, isTemplate⟩ := writable addition List.mem_cons_self
    have rest := fun other member => writable other (List.mem_cons_of_mem _ member)
    rw [insertAll, List.map_cons, List.lookup_cons]
    cases inserted : insert? content addition.key addition.value with
    | none =>
      dsimp only
      rw [ih rest]
      by_cases same : key = addition.key
      · -- The addition is refused, so that the content has a template for its key.
        have defined : (definitions content).lookup key ≠ none := by
          rw [same, ne_eq, ← insert?_isSome_iff content addition.key addition.value, inserted]
          simp
        obtain ⟨value, found⟩ := Option.ne_none_iff_exists'.mp defined
        simp [found]
      · simp [beq_false_of_ne same]
    | some changed =>
      dsimp only
      rw [ih rest, lookup_insert? isKey isTemplate inserted]
      by_cases same : key = addition.key
      · have fresh : (definitions content).lookup key = none := by
          rw [same, ← insert?_isSome_iff content addition.key addition.value, inserted]
          rfl
        rw [if_pos same, fresh, same]
        simp
      · simp [same, beq_false_of_ne same]

/-- Additions of distinct keys that the content does not define are all made. -/
theorem insertAll_count {content : Text} {additions : List Addition}
    (writable : ∀ addition ∈ additions, IsKey addition.key ∧ IsTemplate addition.value)
    (nodup : (additions.map (·.key)).Nodup)
    (fresh : ∀ addition ∈ additions, (definitions content).lookup addition.key = none) :
    (insertAll content additions).2 = additions.length := by
  induction additions generalizing content with
  | nil => rfl
  | cons addition more ih =>
    obtain ⟨isKey, isTemplate⟩ := writable addition List.mem_cons_self
    rw [List.map_cons, List.nodup_cons] at nodup
    have possible : (insert? content addition.key addition.value).isSome :=
      (insert?_isSome_iff _ _ _).mpr (fresh addition List.mem_cons_self)
    obtain ⟨changed, inserted⟩ := Option.isSome_iff_exists.mp possible
    have later : ∀ other ∈ more, (definitions changed).lookup other.key = none := by
      intro other member
      have different : other.key ≠ addition.key := by
        intro same
        exact nodup.1 (same ▸ List.mem_map_of_mem member)
      rw [lookup_insert? isKey isTemplate inserted, if_neg different]
      exact fresh other (List.mem_cons_of_mem _ member)
    have rest := ih (fun other member => writable other (List.mem_cons_of_mem _ member)) nodup.2
      later
    simp only [insertAll, inserted, rest, List.length_cons]

/-! ## One file -/

theorem contentToEdit_of_readText {tree : FileTree} {path : Path} {old : Text}
    (read : tree.readText path = .ok old) : contentToEdit tree path = .ok old := by
  obtain ⟨route, resolved, found⟩ := FileTree.readText_eq_ok.mp read
  have there : tree.pathExists path = true := by
    simp [FileTree.pathExists, FileTree.node?, resolved, found]
  rw [contentToEdit, if_pos there, read]

/-- Additions to one file have one target. -/
theorem targets_of_one_file {file : Path} {additions : List Addition}
    (single : ∀ addition ∈ additions, addition.file = file) (filled : additions ≠ []) :
    targets additions = [file] := by
  have same : ∀ path ∈ (additions.map (·.file)).mergeSort Text.le, path = file := by
    intro path member
    rw [List.mem_mergeSort] at member
    obtain ⟨addition, inside, rfl⟩ := List.mem_map.mp member
    exact single addition inside
  unfold targets distinct
  cases sorted : (additions.map (·.file)).mergeSort Text.le with
  | nil =>
    have empty := congrArg List.length sorted
    rw [List.length_mergeSort, List.length_map, List.length_nil, List.length_eq_zero_iff] at empty
    exact absurd empty filled
  | cons first more =>
    rw [sorted] at same
    have known : ∀ path ∈ more, id path ∈ [id first] := by
      intro path member
      rw [List.mem_singleton, id, id, same path (List.mem_cons_of_mem _ member),
        same first List.mem_cons_self]
    rw [distinctBy, if_neg (by simp), distinctBy_seen known, same first List.mem_cons_self]

theorem file_of_mem_additions {requests : List Addition} {addition : Addition}
    (member : addition ∈ additions requests) :
    ∃ request ∈ requests, addition.file = request.file := by
  obtain ⟨request, inside, trimmed⟩ := List.mem_filterMap.mp member
  refine ⟨request, inside, ?_⟩
  unfold Addition.trimmed? at trimmed
  split at trimmed
  · cases trimmed
  · cases trimmed
    rfl

/-- Requests that name one file are the edit of that file. -/
theorem edit_of_one_file {tree : FileTree} {file : Path} {requests : List Addition}
    (single : ∀ request ∈ requests, request.file = file) (filled : additions requests ≠ []) :
    edit tree requests = editFile tree file (additions requests) := by
  have here : ∀ addition ∈ additions requests, addition.file = file := by
    intro addition member
    obtain ⟨request, inside, same⟩ := file_of_mem_additions member
    rw [same]
    exact single request inside
  have kept : (additions requests).filter (·.file == file) = additions requests := by
    rw [List.filter_eq_self]
    intro addition member
    rw [beq_iff_eq]
    exact here addition member
  rw [edit, targets_of_one_file here filled, editFiles, kept]
  obtain ⟨left, result⟩ := editFile tree file (additions requests)
  cases result with
  | error error => rfl
  | ok stats => rfl

end MessageKeys.Properties
