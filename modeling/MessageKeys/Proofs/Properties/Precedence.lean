import MessageKeys.Proofs.Distinct
import MessageKeys.Proofs.FileTree.Spelling
import MessageKeys.Proofs.FileTree.Writing
import MessageKeys.Proofs.Properties.Loading
import MessageKeys.Proofs.Properties.Placement
import MessageKeys.Proofs.Sorting

/-!
Which file a message comes from.

Loading takes the files that globs find in the order of their paths, each once, whatever order,
repetitions and overlaps the globs have (`exists_findFiles`). Paths are compared by their parts, so
two lists of globs that find the same files give the same paths (`parts_eq_of_listed`), and a key
gets its entry from the least path whose file defines it and from the first line there
(`precedence_of_listed`).
-/
namespace MessageKeys

/-! ## The order of paths -/

theorem PathPart.key_injective : Function.Injective PathPart.key := by
  intro part other same
  cases part with
  | name text =>
    cases other with
    | name text' =>
      have letters : text.map Char.toNat = text'.map Char.toNat := (List.cons.inj same).2
      rw [List.map_inj_right (fun _ _ => Char.toNat_inj.mp) |>.mp letters]
    | root => simp [key] at same
    | current => simp [key] at same
    | parent => simp [key] at same
  | root => cases other <;> simp [key] at same ⊢
  | current => cases other <;> simp [key] at same ⊢
  | parent => cases other <;> simp [key] at same ⊢

/-- What an entry says and where in its file it stands. -/
def Entry.placed (entry : Entry) : Text × Text × Nat := (entry.key, entry.value, entry.line)

/-- The order of parts of paths. -/
def partsOrder : List PathPart → List PathPart → Ordering := compareOn (List.map PathPart.key)

instance : Std.TransCmp partsOrder :=
  inferInstanceAs (Std.TransCmp (compareOn (List.map PathPart.key)))

instance : Std.TransCmp Path.order :=
  inferInstanceAs (Std.TransCmp (compareOn fun path => (Path.parts path).map PathPart.key))

theorem Path.parts_eq_of_order {path other : Path} (tied : Path.order path other = .eq) :
    Path.parts path = Path.parts other :=
  (List.map_injective_iff.mpr PathPart.key_injective) (Std.LawfulEqOrd.eq_of_compare tied)

namespace Properties

/-! ## The files that are found -/

section Finding

variable (tree : FileTree) (root : Path) (globs : List Text)

/-- Whether all globs are patterns under the root. -/
def AreGlobs : Prop := ∀ glob ∈ globs, ∃ places, Glob.walk tree (Glob.under root glob) = .ok places

/-- Whether a path is that of a file that one of the globs finds. -/
def Finds (path : Path) : Prop :=
  ∃ glob ∈ globs, ∃ places, Glob.walk tree (Glob.under root glob) = .ok places ∧
    path ∈ places.map (·.path) ∧ tree.isFile path = true

variable {tree root globs}

theorem exists_matchingFiles (valid : AreGlobs tree root globs) :
    ∃ found, matchingFiles tree root globs = .ok found ∧
      ∀ path, path ∈ found ↔ Finds tree root globs path := by
  induction globs with
  | nil => exact ⟨[], rfl, by simp [Finds]⟩
  | cons glob more ih =>
    obtain ⟨places, walked⟩ := valid glob List.mem_cons_self
    obtain ⟨found, matched, same⟩ :=
      ih fun other member => valid other (List.mem_cons_of_mem _ member)
    refine ⟨(places.map (·.path)).filter tree.isFile ++ found, ?_, ?_⟩
    · rw [matchingFiles, walked, matched]
      rfl
    · intro path
      rw [List.mem_append, same, List.mem_filter]
      constructor
      · rintro (⟨here, file⟩ | ⟨other, member, later⟩)
        · exact ⟨glob, List.mem_cons_self, places, walked, here, file⟩
        · exact ⟨other, List.mem_cons_of_mem _ member, later⟩
      · rintro ⟨other, member, found, alsoWalked, here, file⟩
        rcases List.mem_cons.mp member with rfl | later
        · rw [walked, Except.ok.injEq] at alsoWalked
          rw [alsoWalked]
          exact .inl ⟨here, file⟩
        · exact .inr ⟨other, later, found, alsoWalked, here, file⟩

/-- Paths in their order: every file that is found, each once. -/
structure Listed (found : Path → Prop) (paths : List Path) : Prop where
  increasing : Increasing Path.order paths
  sound : ∀ path ∈ paths, found path
  complete : ∀ path, found path → ∃ spelling ∈ paths, Path.parts spelling = Path.parts path

theorem exists_findFiles (valid : AreGlobs tree root globs) :
    ∃ paths, findFiles tree root globs = .ok paths ∧ Listed (Finds tree root globs) paths := by
  obtain ⟨found, matched, same⟩ := exists_matchingFiles valid
  let sorted := found.mergeSort fun a b => (Path.order a b).isLE
  have kept := distinctBy_sublist Path.parts [] sorted
  refine ⟨distinctBy Path.parts [] sorted, by rw [findFiles, matched]; rfl, ?_, ?_, ?_⟩
  · refine increasing_of_apart ((pairwise_mergeSort_order Path.order found).sublist kept) ?_
    refine (List.pairwise_map.mp (nodup_distinctBy Path.parts [] sorted).1).imp ?_
    intro path other different tied
    exact different (Path.parts_eq_of_order tied)
  · intro path member
    exact (same path).mp (List.mem_mergeSort.mp (kept.subset member))
  · intro path isFound
    have member : path ∈ sorted := List.mem_mergeSort.mpr ((same path).mpr isFound)
    exact exists_mem_distinctBy member List.not_mem_nil

end Finding

/-- Whether the same files are found, however their paths are spelled. -/
def SameFound (found found' : Path → Prop) : Prop :=
  ∀ parts, (∃ path, found path ∧ Path.parts path = parts) ↔
    ∃ path, found' path ∧ Path.parts path = parts

section Listing

variable {found found' : Path → Prop} {paths paths' : List Path}

theorem Listed.mem_parts (listed : Listed found paths) (parts : List PathPart) :
    parts ∈ paths.map Path.parts ↔ ∃ path, found path ∧ Path.parts path = parts := by
  rw [List.mem_map]
  constructor
  · rintro ⟨path, member, same⟩
    exact ⟨path, listed.sound path member, same⟩
  · rintro ⟨path, isFound, rfl⟩
    exact listed.complete path isFound

/-- The paths of the same files are the same and in the same order. -/
theorem parts_eq_of_listed (listed : Listed found paths) (listed' : Listed found' paths')
    (same : SameFound found found') : paths.map Path.parts = paths'.map Path.parts := by
  have up : Increasing partsOrder (paths.map Path.parts) := List.pairwise_map.mpr listed.increasing
  have alsoUp : Increasing partsOrder (paths'.map Path.parts) :=
    List.pairwise_map.mpr listed'.increasing
  refine eq_of_increasing up alsoUp ?_
  intro parts
  rw [listed.mem_parts, listed'.mem_parts]
  exact same parts

/-- Files that have one spelling each are listed by the same paths. -/
theorem paths_eq_of_spelled (listed : Listed found paths) (listed' : Listed found' paths')
    (same : paths.map Path.parts = paths'.map Path.parts)
    (spelled : ∀ path other, found path → found' other → Path.parts path = Path.parts other →
      path = other) : paths = paths' := by
  refine eq_of_increasing listed.increasing listed'.increasing ?_
  intro path
  constructor
  · intro member
    have inside : Path.parts path ∈ paths'.map Path.parts := same ▸ List.mem_map_of_mem member
    obtain ⟨other, there, alike⟩ := List.mem_map.mp inside
    rwa [spelled path other (listed.sound _ member) (listed'.sound _ there) alike.symm]
  · intro member
    have inside : Path.parts path ∈ paths.map Path.parts := same ▸ List.mem_map_of_mem member
    obtain ⟨other, there, alike⟩ := List.mem_map.mp inside
    rwa [← spelled other path (listed.sound _ there) (listed'.sound _ member) alike]

end Listing

/-! ## The entries of one file -/

/-- Whether an entry for a key stands in a file that can be read. -/
def Defines (tree : FileTree) (path : Path) (key : Text) (entry : Entry) : Prop :=
  ∃ content, tree.readText path = .ok content ∧ entry ∈ parse content path ∧ entry.key = key

theorem file_of_mem_numbered {file : Text} {line : Nat} {slots : List (Option (Text × Text))}
    {entry : Entry} (member : entry ∈ numbered file line slots) : entry.file = file := by
  induction slots generalizing line with
  | nil => cases member
  | cons slot more ih =>
    rcases List.mem_append.mp member with here | later
    · cases slot with
      | none => cases here
      | some definition => rw [List.mem_singleton.mp here]
    · exact ih later

/-- An entry that is found in a file is the one on the first line that defines its key. -/
theorem entryIn?_eq_some {tree : FileTree} {key : Text} {path : Path} {entry : Entry}
    (found : entryIn? tree key path = some entry) :
    entry.file = path ∧ Defines tree path key entry ∧
      ∀ other, Defines tree path key other → entry.line ≤ other.line := by
  obtain ⟨content, read, first⟩ := Option.bind_eq_some_iff.mp found
  replace read := FileTree.eq_ok_of_toOption read
  have isKey : entry.key = key := by simpa using List.find?_some first
  have member := List.mem_of_find?_eq_some first
  refine ⟨?_, ⟨content, read, member, isKey⟩, ?_⟩
  · rw [parse_eq] at member
    exact file_of_mem_numbered member
  · rintro other ⟨content', read', inside, alsoKey⟩
    rw [read, Except.ok.injEq] at read'
    rw [← read'] at inside
    obtain ⟨_, before, after, whole, others⟩ := List.find?_eq_some_iff_append.mp first
    have lines : (parse content path).Pairwise fun entry other => entry.line < other.line := by
      rw [parse_eq]
      exact pairwise_numbered path 1 _
    rw [whole, List.pairwise_append, List.pairwise_cons] at lines
    rw [whole, List.mem_append, List.mem_cons] at inside
    rcases inside with earlier | same | later
    · have different := others other earlier
      simp [alsoKey] at different
    · exact Nat.le_of_eq (congrArg Entry.line same.symm)
    · exact Nat.le_of_lt (lines.2.1.1 other later)

theorem exists_entryIn? {tree : FileTree} {key : Text} {path : Path} {entry : Entry}
    (defined : Defines tree path key entry) : ∃ first, entryIn? tree key path = some first := by
  obtain ⟨content, read, member, isKey⟩ := defined
  rw [← Option.isSome_iff_exists, entryIn?, read]
  exact List.find?_isSome.mpr ⟨entry, member, by simp [isKey]⟩

theorem placed_numbered (file other : Text) (line : Nat) (slots : List (Option (Text × Text))) :
    (numbered file line slots).map Entry.placed = (numbered other line slots).map Entry.placed := by
  induction slots generalizing line with
  | nil => rfl
  | cons slot more ih =>
    rw [numbered, numbered, List.map_append, List.map_append, ih]
    cases slot <;> rfl

/-- The same text gives a key the same template on the same line, whatever the path. -/
theorem placed_entryIn? {tree : FileTree} {path other : Path}
    (same : tree.readText path = tree.readText other) (key : Text) :
    (entryIn? tree key path).map Entry.placed = (entryIn? tree key other).map Entry.placed := by
  have byKey : ∀ entries : List Entry,
      (entries.find? fun entry => entry.key == key).map Entry.placed =
        (entries.map Entry.placed).find? fun placed => placed.1 == key := by
    intro entries
    rw [List.find?_map]
    rfl
  unfold entryIn?
  rw [same]
  cases (tree.readText other).toOption with
  | none => rfl
  | some content =>
    rw [Option.bind_some, Option.bind_some, byKey, byKey, parse_eq, parse_eq,
      placed_numbered path other]

/-! ## The entries of all files -/

section Loading

variable {tree : FileTree} {found found' : Path → Prop} {paths paths' : List Path}

/-- Whether two paths are the same, and what is read at them too. -/
def SameFile (tree : FileTree) (path other : Path) : Prop :=
  Path.parts path = Path.parts other ∧ tree.readText path = tree.readText other

theorem sameFile_of_parts (files : ∀ path ∈ paths, tree.isFile path = true)
    (files' : ∀ path ∈ paths', tree.isFile path = true)
    (same : paths.map Path.parts = paths'.map Path.parts) :
    List.Forall₂ (SameFile tree) paths paths' := by
  induction paths generalizing paths' with
  | nil =>
    rw [List.map_nil] at same
    rw [List.map_eq_nil_iff.mp same.symm]
    exact .nil
  | cons path more ih =>
    obtain ⟨other, more', rfl, parts, rest⟩ := List.map_eq_cons_iff.mp same.symm
    have read := FileTree.readText_eq_of_parts parts.symm (files path List.mem_cons_self)
      (files' other List.mem_cons_self)
    refine .cons ⟨parts.symm, read⟩ (ih ?_ ?_ rest.symm)
    · exact fun path member => files path (List.mem_cons_of_mem _ member)
    · exact fun path member => files' path (List.mem_cons_of_mem _ member)

theorem placed_loadedCatalog (same : List.Forall₂ (SameFile tree) paths paths') (key : Text) :
    ((loadedCatalog tree paths).get? key).map Entry.placed =
      ((loadedCatalog tree paths').get? key).map Entry.placed := by
  simp only [get?_loadedCatalog, List.map_findSome?]
  induction same with
  | nil => rfl
  | cons alike _ later =>
    have placed := placed_entryIn? alike.2 key
    rw [List.findSome?_cons, List.findSome?_cons, Function.comp, Function.comp, placed, later]

theorem parts_loadedCatalog (same : List.Forall₂ (SameFile tree) paths paths') :
    (loadedCatalog tree paths).files.map Path.parts =
      (loadedCatalog tree paths').files.map Path.parts := by
  simp only [files_loadedCatalog]
  induction same with
  | nil => rfl
  | @cons path other _ _ alike _ later =>
    rw [List.filter_cons, List.filter_cons, alike.2]
    split
    · rw [List.map_cons, List.map_cons, alike.1, later]
    · exact later

/-- Which of the files that are found define what is loaded, and which raise issues. -/
structure Precedence (tree : FileTree) (found : Path → Prop) (loaded : Loaded) : Prop where
  defined : ∀ key, loaded.catalog.contains key = true ↔
    ∃ path entry, found path ∧ Defines tree path key entry
  origin : ∀ key entry, loaded.catalog.get? key = some entry →
    found entry.file ∧ Defines tree entry.file key entry
  least_path : ∀ key entry, loaded.catalog.get? key = some entry →
    ∀ path other, found path → Defines tree path key other →
      (Path.order entry.file path).isLE = true
  first_line : ∀ key entry, loaded.catalog.get? key = some entry →
    ∀ other, Defines tree entry.file key other → entry.line ≤ other.line
  /-- A file that cannot be read raises an issue. -/
  warned : ∀ path cause, found path → tree.readText path = .error cause →
    ∃ spelling, Path.parts spelling = Path.parts path ∧
      UnreadableFile.issue ⟨spelling, cause⟩ ∈ loaded.issues
  /-- Nothing else does. -/
  warnings : ∀ issue ∈ loaded.issues, ∃ path cause, found path ∧
    tree.readText path = .error cause ∧ issue = UnreadableFile.issue ⟨path, cause⟩
  warned_once : Increasing Path.order (loaded.issues.map (·.file))
  no_entry : ∀ path cause, found path → tree.readText path = .error cause →
    ∀ key entry, loaded.catalog.get? key = some entry → Path.parts entry.file ≠ Path.parts path

variable (files : ∀ path, found path → tree.isFile path = true)

include files

/-- What is read at a path that is found is read at a listed one too. -/
theorem Listed.exists_spelling (listed : Listed found paths) {path : Path} (isFound : found path) :
    ∃ spelling ∈ paths, Path.parts spelling = Path.parts path ∧
      tree.readText spelling = tree.readText path := by
  obtain ⟨spelling, member, same⟩ := listed.complete path isFound
  exact ⟨spelling, member, same,
    FileTree.readText_eq_of_parts same (files _ (listed.sound _ member)) (files _ isFound)⟩

theorem Listed.exists_entry (listed : Listed found paths) {path : Path} {key : Text} {entry : Entry}
    (isFound : found path) (defined : Defines tree path key entry) :
    ∃ spelling ∈ paths, Path.parts spelling = Path.parts path ∧
      (entryIn? tree key spelling).isSome = true := by
  obtain ⟨spelling, member, same, read⟩ := listed.exists_spelling files isFound
  obtain ⟨first, held⟩ := exists_entryIn? defined
  have alike := congrArg Option.isSome (placed_entryIn? read key)
  rw [Option.isSome_map, Option.isSome_map, held] at alike
  exact ⟨spelling, member, same, alike⟩

/-- An entry comes from the least path and the first line. -/
theorem Listed.get?_eq_some (listed : Listed found paths) {key : Text} {entry : Entry}
    (held : (loadedCatalog tree paths).get? key = some entry) :
    entry.file ∈ paths ∧ Defines tree entry.file key entry ∧
      (∀ other, Defines tree entry.file key other → entry.line ≤ other.line) ∧
      ∀ path other, found path → Defines tree path key other →
        (Path.order entry.file path).isLE = true := by
  rw [get?_loadedCatalog, List.findSome?_eq_some_iff] at held
  obtain ⟨before, path, after, whole, first, others⟩ := held
  obtain ⟨here, defined, least⟩ := entryIn?_eq_some first
  rw [here]
  refine ⟨by simp [whole], defined, least, ?_⟩
  intro rival other isFound alsoDefined
  obtain ⟨spelling, inside, same, some⟩ := listed.exists_entry files isFound alsoDefined
  have compared : Path.order path rival = Path.order path spelling := by
    rw [Path.order, Path.order, same]
  -- The rival is not listed before the path, where no file has an entry.
  have increasing := listed.increasing
  rw [whole, Increasing, List.pairwise_append, List.pairwise_cons] at increasing
  rw [whole, List.mem_append, List.mem_cons] at inside
  rw [compared]
  rcases inside with earlier | equal | later
  · rw [others spelling earlier] at some
    cases some
  · have tied : Path.order path path = .eq := Std.ReflCmp.compare_self
    rw [equal, tied]
    rfl
  · rw [increasing.2.1.1 spelling later]
    rfl

theorem precedence_of_listed (listed : Listed found paths) :
    Precedence tree found ⟨loadedCatalog tree paths, paths.filterMap (readIssue? tree)⟩ := by
  refine
    { defined := ?_, origin := ?_, least_path := ?_, first_line := ?_, warned := ?_,
      warnings := ?_, warned_once := ?_, no_entry := ?_ }
  · intro key
    rw [Catalog.contains, get?_loadedCatalog, List.findSome?_isSome_iff]
    constructor
    · rintro ⟨path, member, held⟩
      obtain ⟨entry, first⟩ := Option.isSome_iff_exists.mp held
      exact ⟨path, entry, listed.sound path member, (entryIn?_eq_some first).2.1⟩
    · rintro ⟨path, entry, isFound, defined⟩
      obtain ⟨spelling, member, _, held⟩ := listed.exists_entry files isFound defined
      exact ⟨spelling, member, held⟩
  · intro key entry held
    obtain ⟨member, defined, _⟩ := listed.get?_eq_some files held
    exact ⟨listed.sound _ member, defined⟩
  · intro key entry held
    exact (listed.get?_eq_some files held).2.2.2
  · intro key entry held
    exact (listed.get?_eq_some files held).2.2.1
  · intro path cause isFound unread
    obtain ⟨spelling, member, same, read⟩ := listed.exists_spelling files isFound
    refine ⟨spelling, same, List.mem_filterMap.mpr ⟨spelling, member, ?_⟩⟩
    rw [readIssue?, read, unread]
  · intro issue member
    obtain ⟨path, inside, made⟩ := List.mem_filterMap.mp member
    unfold readIssue? at made
    split at made
    · next cause unread =>
      exact ⟨path, cause, listed.sound path inside, unread, (Option.some.inj made).symm⟩
    · cases made
  · refine List.pairwise_map.mpr (listed.increasing.filterMap _ ?_)
    intro path other upwards issue made issue' made'
    rw [(file_of_readIssue? made).1, (file_of_readIssue? made').1]
    exact upwards
  · intro path cause isFound unread key entry held same
    obtain ⟨member, ⟨content, read, _⟩, _⟩ := listed.get?_eq_some files held
    rw [FileTree.readText_eq_of_parts same (files _ (listed.sound _ member)) (files _ isFound),
      unread] at read
    cases read

end Loading

/-! ## Two lists of globs -/

section Globs

variable {tree : FileTree} {root : Path} {globs globs' : List Text}

theorem isFile_of_finds (path : Path) (found : Finds tree root globs path) :
    tree.isFile path = true := by
  obtain ⟨_, _, _, _, _, file⟩ := found
  exact file

theorem areGlobs_of_isSome
    (walked : ∀ glob ∈ globs, (Glob.walk tree (Glob.under root glob)).toOption.isSome = true) :
    AreGlobs tree root globs := by
  intro glob member
  obtain ⟨places, whole⟩ := Option.isSome_iff_exists.mp (walked glob member)
  exact ⟨places, FileTree.eq_ok_of_toOption whole⟩

theorem mem_parts_matchingFiles (valid : AreGlobs tree root globs) {found : List Path}
    (matched : matchingFiles tree root globs = .ok found) (parts : List PathPart) :
    parts ∈ found.map Path.parts ↔
      ∃ path, Finds tree root globs path ∧ Path.parts path = parts := by
  obtain ⟨_, alsoMatched, same⟩ := exists_matchingFiles valid
  rw [matched, Except.ok.injEq] at alsoMatched
  rw [List.mem_map, alsoMatched]
  simp only [same]

/-- Whether the same files are found shows in the paths that the globs match. -/
theorem sameFound_of_matchingFiles (valid : AreGlobs tree root globs)
    (valid' : AreGlobs tree root globs') {found found' : List Path}
    (matched : matchingFiles tree root globs = .ok found)
    (matched' : matchingFiles tree root globs' = .ok found')
    (inside : found.map Path.parts ⊆ found'.map Path.parts)
    (inside' : found'.map Path.parts ⊆ found.map Path.parts) :
    SameFound (Finds tree root globs) (Finds tree root globs') := by
  intro parts
  rw [← mem_parts_matchingFiles valid matched, ← mem_parts_matchingFiles valid' matched']
  exact ⟨fun member => inside member, fun member => inside' member⟩

/-- Two lists of globs that find the same files load the same paths in the same order and give every
key the same template from the same line, and the entries are those of the least paths. If no file
is found under two spellings of its path, all that is loaded is the same. -/
theorem load_depends_on_files (valid : AreGlobs tree root globs)
    (valid' : AreGlobs tree root globs')
    (same : SameFound (Finds tree root globs) (Finds tree root globs')) :
    ∃ paths paths' loaded loaded',
      findFiles tree root globs = .ok paths ∧ findFiles tree root globs' = .ok paths' ∧
      load tree root globs = .ok loaded ∧ load tree root globs' = .ok loaded' ∧
      Listed (Finds tree root globs) paths ∧ paths.map Path.parts = paths'.map Path.parts ∧
      loaded.catalog.files = paths.filter (fun path => (tree.readText path).toOption.isSome) ∧
      loaded.catalog.files.map Path.parts = loaded'.catalog.files.map Path.parts ∧
      (∀ key, (loaded.catalog.get? key).map (fun entry => (entry.value, entry.line)) =
        (loaded'.catalog.get? key).map fun entry => (entry.value, entry.line)) ∧
      Precedence tree (Finds tree root globs) loaded ∧
      ((∀ path other, Finds tree root globs path → Finds tree root globs' other →
        Path.parts path = Path.parts other → path = other) → loaded = loaded') := by
  obtain ⟨paths, found, listed⟩ := exists_findFiles valid
  obtain ⟨paths', found', listed'⟩ := exists_findFiles valid'
  have parts := parts_eq_of_listed listed listed' same
  have alike := sameFile_of_parts (fun path member => isFile_of_finds _ (listed.sound _ member))
    (fun path member => isFile_of_finds _ (listed'.sound _ member)) parts
  refine ⟨paths, paths', ⟨loadedCatalog tree paths, paths.filterMap (readIssue? tree)⟩,
    ⟨loadedCatalog tree paths', paths'.filterMap (readIssue? tree)⟩, found, found',
    by rw [load_eq, found]; rfl, by rw [load_eq, found']; rfl, listed, parts,
    files_loadedCatalog tree paths, parts_loadedCatalog alike, ?_,
    precedence_of_listed isFile_of_finds listed, ?_⟩
  · intro key
    have shown := congrArg (Option.map Prod.snd) (placed_loadedCatalog alike key)
    rw [Option.map_map, Option.map_map] at shown
    exact shown
  · intro spelled
    rw [paths_eq_of_spelled listed listed' parts spelled]

/-- Three files, one of them in a directory and one that is no text. -/
def mixedFiles : FileTree where
  entries := [
    (["b.properties".toList], .file (.text "k=2\nx=3\nk=4\n".toList)),
    (["c.properties".toList], .file (.binary [255])),
    (["sub".toList], .directory),
    (["sub".toList, "a.properties".toList], .file (.text "k=1\ny=5".toList))]

/-- Globs that find each file once. -/
def plainGlobs : List Text := ["*.properties".toList, "sub/*.properties".toList]

/-- Globs that overlap, in another order and with another spelling of a path. -/
def overlappingGlobs : List Text :=
  ["sub/./a*".toList, "c*".toList, "**/*.properties".toList, "c*".toList]

theorem load_depends_on_files_overlapping :
    AreGlobs mixedFiles ['.'] plainGlobs ∧ AreGlobs mixedFiles ['.'] overlappingGlobs ∧
      SameFound (Finds mixedFiles ['.'] plainGlobs) (Finds mixedFiles ['.'] overlappingGlobs) ∧
      (∃ loaded loaded', load mixedFiles ['.'] plainGlobs = .ok loaded ∧
        load mixedFiles ['.'] overlappingGlobs = .ok loaded' ∧
        (∀ key, (loaded.catalog.get? key).map (fun entry => (entry.value, entry.line)) =
          (loaded'.catalog.get? key).map fun entry => (entry.value, entry.line)) ∧
        Precedence mixedFiles (Finds mixedFiles ['.'] plainGlobs) loaded) := by
  have valid : AreGlobs mixedFiles ['.'] plainGlobs := areGlobs_of_isSome (by decide +kernel)
  have valid' : AreGlobs mixedFiles ['.'] overlappingGlobs := areGlobs_of_isSome (by decide +kernel)
  have matched : matchingFiles mixedFiles ['.'] plainGlobs =
      .ok ["b.properties".toList, "c.properties".toList, "sub/a.properties".toList] :=
    FileTree.eq_ok_of_toOption (by decide +kernel)
  have matched' : matchingFiles mixedFiles ['.'] overlappingGlobs =
      .ok ["sub/./a.properties".toList, "c.properties".toList, "b.properties".toList,
        "c.properties".toList, "sub/a.properties".toList, "c.properties".toList] :=
    FileTree.eq_ok_of_toOption (by decide +kernel)
  have same := sameFound_of_matchingFiles valid valid' matched matched' (by decide +kernel)
    (by decide +kernel)
  obtain ⟨_, _, loaded, loaded', _, _, opened, opened', _, _, _, _, alike, precedence, _⟩ :=
    load_depends_on_files valid valid' same
  exact ⟨valid, valid', same, loaded, loaded', opened, opened', alike, precedence⟩

end Globs

end Properties

end MessageKeys
