import MessageKeys.Issue.Find
import MessageKeys.Proofs.Distinct
import MessageKeys.Proofs.Reference.Places

/-!
Which keys the issues of undefined keys report.

References at one place are reported once. Since they have one key, every key that some source file
refers to and that the catalog does not hold is reported, and no other (`mem_undefinedKeys`).
-/
namespace MessageKeys

variable {sources : List SourceFile} {references : Matcher} {catalog : Catalog}

/-- An undefined key of a file is reported where a reference to it begins. -/
theorem exists_of_mem_fileUndefinedKeyIssues {file : SourceFile} {issue : UndefinedKeyIssue}
    (member : issue ∈ file.undefinedKeyIssues references catalog) :
    ∃ reference ∈ references.references file.text, catalog.contains reference.key = false ∧
      issue =
        ⟨(LineIndex.ofText file.text).contextAt file.path reference.start, reference.key⟩ := by
  obtain ⟨reference, kept, rfl⟩ := List.mem_map.mp member
  have undefined := (distinctBy_sublist _ _ _).subset kept
  rw [List.mem_filter, Bool.not_eq_true'] at undefined
  exact ⟨reference, undefined.1, undefined.2, rfl⟩

theorem exists_file_of_mem_undefinedKeyIssues {issue : UndefinedKeyIssue}
    (member : issue ∈ undefinedKeyIssues sources references catalog) :
    ∃ file ∈ sources, issue ∈ file.undefinedKeyIssues references catalog :=
  List.mem_flatMap.mp (List.mem_mergeSort.mp member)

theorem mem_fileUndefinedKeys {file : SourceFile} {key : Text} :
    key ∈ (file.undefinedKeyIssues references catalog).map (·.key) ↔
      catalog.contains key = false ∧ ∃ reference ∈ references.references file.text,
        reference.key = key := by
  have shape : (file.undefinedKeyIssues references catalog).map (·.key) =
      (distinctBy Reference.span [] ((references.references file.text).filter fun reference =>
        !catalog.contains reference.key)).map (·.key) := by
    rw [SourceFile.undefinedKeyIssues, List.map_map]
    rfl
  rw [shape, List.mem_map]
  constructor
  · rintro ⟨reference, kept, rfl⟩
    have member := (distinctBy_sublist _ _ _).subset kept
    rw [List.mem_filter, Bool.not_eq_true'] at member
    exact ⟨member.2, reference, member.1, rfl⟩
  · rintro ⟨undefined, reference, member, rfl⟩
    have selected : reference ∈ (references.references file.text).filter fun reference =>
        !catalog.contains reference.key := by
      rw [List.mem_filter, undefined]
      exact ⟨member, rfl⟩
    obtain ⟨other, kept, same⟩ := @exists_mem_distinctBy _ _ _ _ Reference.span [] _ _ selected
      List.not_mem_nil
    have there := (List.mem_filter.mp ((distinctBy_sublist _ _ _).subset kept)).1
    exact ⟨other, kept, key_eq_of_span there member same⟩

/-- The keys that are reported as undefined. -/
theorem mem_undefinedKeys {key : Text} :
    key ∈ undefinedKeys (undefinedKeyIssues sources references catalog) ↔
      catalog.contains key = false ∧ ∃ file ∈ sources,
        ∃ reference ∈ references.references file.text, reference.key = key := by
  have sorted : key ∈ (undefinedKeyIssues sources references catalog).map (·.key) ↔
      ∃ file ∈ sources, key ∈ (file.undefinedKeyIssues references catalog).map (·.key) := by
    simp only [undefinedKeyIssues, List.mem_map, List.mem_mergeSort, List.mem_flatMap]
    constructor
    · rintro ⟨issue, ⟨file, member, inside⟩, same⟩
      exact ⟨file, member, issue, inside, same⟩
    · rintro ⟨file, member, issue, inside, same⟩
      exact ⟨issue, ⟨file, member, inside⟩, same⟩
  rw [undefinedKeys, mem_distinct, sorted]
  simp only [mem_fileUndefinedKeys]
  constructor
  · rintro ⟨file, member, undefined, found⟩
    exact ⟨undefined, file, member, found⟩
  · rintro ⟨undefined, file, member, found⟩
    exact ⟨file, member, undefined, found⟩

theorem nodup_undefinedKeys (issues : List UndefinedKeyIssue) : (undefinedKeys issues).Nodup :=
  nodup_distinct _

/-- Nothing is reported for a catalog that holds every key that is referred to. -/
theorem undefinedKeyIssues_eq_nil (defined : ∀ file ∈ sources,
    ∀ reference ∈ references.references file.text, catalog.contains reference.key = true) :
    undefinedKeyIssues sources references catalog = [] := by
  rw [List.eq_nil_iff_forall_not_mem]
  intro issue member
  have reported : issue.key ∈ undefinedKeys (undefinedKeyIssues sources references catalog) := by
    rw [undefinedKeys, mem_distinct]
    exact List.mem_map_of_mem member
  obtain ⟨undefined, file, inside, reference, found, same⟩ := mem_undefinedKeys.mp reported
  have held := defined file inside reference found
  rw [same, undefined] at held
  cases held

end MessageKeys
