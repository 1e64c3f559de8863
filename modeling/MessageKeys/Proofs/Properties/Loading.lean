import MessageKeys.Proofs.Properties.Definitions
import MessageKeys.Properties.Load

/-!
What a catalog holds after files have been loaded into it.

Each definition that is inserted counts only where its key was not defined before
(`get?_insert`), so that over all files the first one that defines a key gives its entry
(`get?_loadedCatalog`).
-/
namespace MessageKeys

namespace Catalog

theorem get?_insert (catalog : Catalog) (entry : Entry) (key : Text) :
    (catalog.insert entry).get? key =
      (catalog.get? key).or (if entry.key = key then some entry else none) := by
  unfold insert
  split
  · next defined =>
    by_cases same : entry.key = key
    · rw [contains, same] at defined
      obtain ⟨found, held⟩ := Option.isSome_iff_exists.mp defined
      rw [held, Option.some_or]
    · rw [if_neg same, Option.or_none]
  · rw [get?, List.find?_append]
    by_cases same : entry.key = key
    · simp [get?, same]
    · simp [get?, same]

theorem get?_extend (catalog : Catalog) (entries : List Entry) (key : Text) :
    (catalog.extend entries).get? key =
      (catalog.get? key).or (entries.find? fun entry => entry.key == key) := by
  unfold extend
  induction entries generalizing catalog with
  | nil => simp
  | cons entry more ih =>
    rw [List.foldl_cons, ih, get?_insert, List.find?_cons, Option.or_assoc]
    by_cases same : entry.key = key
    · simp [same]
    · simp [same, beq_false_of_ne same]

@[simp] theorem get?_addFile (catalog : Catalog) (file key : Text) :
    (catalog.addFile file).get? key = catalog.get? key := rfl

theorem files_extend (catalog : Catalog) (entries : List Entry) :
    (catalog.extend entries).files = catalog.files := by
  unfold extend
  induction entries generalizing catalog with
  | nil => rfl
  | cons entry more ih =>
    rw [List.foldl_cons, ih, insert]
    split <;> rfl

theorem contains_eq (catalog : Catalog) (key : Text) :
    catalog.contains key = (catalog.template? key).isSome := by
  rw [contains, template?, Option.isSome_map]

end Catalog

namespace Properties

theorem find?_value (entries : List Entry) (key : Text) :
    (entries.find? fun entry => entry.key == key).map (·.value) =
      (entries.map fun entry => (entry.key, entry.value)).lookup key := by
  induction entries with
  | nil => rfl
  | cons entry more ih =>
    rw [List.find?_cons, List.map_cons, List.lookup_cons]
    by_cases same : entry.key = key
    · simp [same]
    · simp only [beq_false_of_ne same, beq_false_of_ne (Ne.symm same)]
      exact ih

/-- The template that a file gives a key. -/
def templateIn? (tree : FileTree) (key : Text) (path : Path) : Option Text :=
  (tree.readText path).toOption.bind fun content => (definitions content).lookup key

/-- The catalog of files that are loaded in their order. -/
def loadedCatalog (tree : FileTree) (paths : List Path) : Catalog :=
  (paths.foldl (Loaded.add tree) ⟨.empty, []⟩).catalog

/-- The entry that a file gives a key. -/
def entryIn? (tree : FileTree) (key : Text) (path : Path) : Option Entry :=
  (tree.readText path).toOption.bind fun content =>
    (parse content path).find? fun entry => entry.key == key

theorem templateIn?_eq (tree : FileTree) (key : Text) (path : Path) :
    templateIn? tree key path = (entryIn? tree key path).map (·.value) := by
  unfold templateIn? entryIn?
  cases (tree.readText path).toOption with
  | none => rfl
  | some content =>
    rw [Option.bind_some, Option.bind_some, find?_value, parse_definitions]

/-- What one more file adds to the entries. -/
theorem get?_add (tree : FileTree) (loaded : Loaded) (path : Path) (key : Text) :
    (loaded.add tree path).catalog.get? key =
      (loaded.catalog.get? key).or (entryIn? tree key path) := by
  unfold Loaded.add entriesOf entryIn?
  cases tree.readText path with
  | error cause => simp [Except.toOption]
  | ok content =>
    simp only [Except.toOption, Option.bind_some]
    rw [Catalog.get?_extend, Catalog.get?_addFile]

theorem get?_foldl (tree : FileTree) (paths : List Path) (loaded : Loaded) (key : Text) :
    (paths.foldl (Loaded.add tree) loaded).catalog.get? key =
      (loaded.catalog.get? key).or (paths.findSome? (entryIn? tree key)) := by
  induction paths generalizing loaded with
  | nil => simp
  | cons path more ih =>
    rw [List.foldl_cons, ih, get?_add, List.findSome?_cons, Option.or_assoc]
    cases entryIn? tree key path <;> simp

/-- A key has the entry that the first file which defines it gives. -/
theorem get?_loadedCatalog (tree : FileTree) (paths : List Path) (key : Text) :
    (loadedCatalog tree paths).get? key = paths.findSome? (entryIn? tree key) := by
  rw [loadedCatalog, get?_foldl]
  rfl

/-- A key has the template that the first file which defines it gives. -/
theorem template?_loadedCatalog (tree : FileTree) (paths : List Path) (key : Text) :
    (loadedCatalog tree paths).template? key = paths.findSome? (templateIn? tree key) := by
  rw [Catalog.template?, get?_loadedCatalog, List.map_findSome?]
  congr 1
  funext path
  exact (templateIn?_eq tree key path).symm

theorem files_foldl (tree : FileTree) (paths : List Path) (loaded : Loaded) :
    (paths.foldl (Loaded.add tree) loaded).catalog.files =
      loaded.catalog.files ++ paths.filter fun path => (tree.readText path).toOption.isSome := by
  induction paths generalizing loaded with
  | nil => simp
  | cons path more ih =>
    rw [List.foldl_cons, ih, List.filter_cons, Loaded.add, entriesOf]
    cases tree.readText path with
    | error cause => simp [Except.toOption]
    | ok content => simp [Except.toOption, Catalog.files_extend, Catalog.addFile]

/-- The issue of a file that cannot be read. -/
def readIssue? (tree : FileTree) (path : Path) : Option ReadIssue :=
  match tree.readText path with
  | .error cause => some (UnreadableFile.issue ⟨path, cause⟩)
  | .ok _ => none

theorem file_of_readIssue? {tree : FileTree} {path : Path} {issue : ReadIssue}
    (made : readIssue? tree path = some issue) :
    issue.file = path ∧ "Failed to read properties file: ".toList <+: issue.error := by
  unfold readIssue? at made
  split at made
  · next cause _ =>
    cases made
    refine ⟨rfl, ?_⟩
    exact (List.prefix_append _ path).trans
      ((List.prefix_append _ ": ".toList).trans (List.prefix_append _ cause.message))
  · cases made

theorem issues_foldl (tree : FileTree) (paths : List Path) (loaded : Loaded) :
    (paths.foldl (Loaded.add tree) loaded).issues =
      loaded.issues ++ paths.filterMap (readIssue? tree) := by
  induction paths generalizing loaded with
  | nil => simp
  | cons path more ih =>
    rw [List.foldl_cons, ih, List.filterMap_cons, Loaded.add, entriesOf, readIssue?]
    cases tree.readText path with
    | error cause => simp
    | ok content => rfl

/-- Loading comes to the catalog of the files that are found, and the issues of those that cannot be
read. -/
theorem load_eq (tree : FileTree) (root : Path) (globs : List Text) :
    load tree root globs = (findFiles tree root globs).map fun paths =>
      ⟨loadedCatalog tree paths, paths.filterMap (readIssue? tree)⟩ := by
  unfold load
  congr 1
  funext paths
  have issues := issues_foldl tree paths ⟨.empty, []⟩
  rw [List.nil_append] at issues
  rw [← issues]
  rfl

/-- The files of a catalog are those that could be read. -/
theorem files_loadedCatalog (tree : FileTree) (paths : List Path) :
    (loadedCatalog tree paths).files =
      paths.filter fun path => (tree.readText path).toOption.isSome := by
  rw [loadedCatalog, files_foldl]
  rfl

end Properties

end MessageKeys
