import Mathlib.Data.List.Nodup
import MessageKeys.Proofs.Distinct
import MessageKeys.Proofs.Properties.Loading
import MessageKeys.Project.Check

/-!
What a project that was opened is made of.

A project is opened in several steps, each of which can fail. `madeFrom_of_load` says once what the
steps leave in a project that was opened. Its source files and its properties files are each listed
once, so that no file is reported twice as one that cannot be read (`nodup_readIssues`).
-/
namespace MessageKeys

open Properties

/-- What the parts of a project come from. -/
structure Project.MadeFrom (project : Project) (tree : FileTree) (choice : ProjectChoice) :
    Prop where
  files : project.files = (Project.scan tree choice.root project.config).files
  properties : ∃ paths, findFiles tree choice.root project.config.propertyFileGlobs = .ok paths ∧
    project.catalog = loadedCatalog tree paths ∧
    project.propertiesIssues = paths.filterMap (readIssue? tree)
  methods : project.methods = Call.MethodName.ofTexts project.config.methods

variable {tree : FileTree} {choice : ProjectChoice} {project : Project}

theorem exists_paths_of_load {root : Path} {globs : List Text} {loaded : Loaded}
    (result : Properties.load tree root globs = .ok loaded) :
    ∃ paths, findFiles tree root globs = .ok paths ∧ loaded.catalog = loadedCatalog tree paths ∧
      loaded.issues = paths.filterMap (readIssue? tree) := by
  rw [load_eq] at result
  cases found : findFiles tree root globs with
  | error error => simp [found, Except.map] at result
  | ok paths =>
    simp only [found, Except.map, Except.ok.injEq] at result
    rw [← result]
    exact ⟨paths, rfl, rfl, rfl⟩

theorem madeFrom_of_load (opened : (Project.load tree choice).project = .ok project) :
    project.MadeFrom tree choice := by
  unfold Project.load at opened
  split at opened
  · cases opened
  · dsimp only at opened
    split at opened
    · cases opened
    · simp only [Project.assemble] at opened
      split at opened
      · cases opened
      next result =>
        split at opened
        · cases opened
        · cases opened
          exact ⟨rfl, exists_paths_of_load result, rfl⟩

/-- The catalog of a project holds the files that its globs find. -/
theorem catalog_of_load (opened : (Project.load tree choice).project = .ok project) :
    ∃ paths, findFiles tree choice.root project.config.propertyFileGlobs = .ok paths ∧
      project.catalog = loadedCatalog tree paths := by
  obtain ⟨paths, found, loaded, _⟩ := (madeFrom_of_load opened).properties
  exact ⟨paths, found, loaded⟩

theorem Project.MadeFrom.nodup_files (made : project.MadeFrom tree choice) :
    project.files.Nodup := by
  rw [made.files]
  exact nodup_distinct _

theorem nodup_findFiles {root : Path} {globs : List Text} {paths : List Path}
    (found : findFiles tree root globs = .ok paths) : paths.Nodup := by
  unfold findFiles at found
  cases reached : matchingFiles tree root globs with
  | error error => simp [reached, Except.map] at found
  | ok matching =>
    simp only [reached, Except.map, Except.ok.injEq] at found
    rw [← found]
    exact .of_map _ (nodup_distinctBy Path.parts [] _).1

/-- The files that were read are different files. -/
theorem nodup_readable {paths : List Path} (nodup : paths.Nodup) (tree : FileTree) :
    ((Sources.read tree paths).readable.map (·.path)).Nodup := by
  rw [Sources.read, List.map_filterMap]
  refine nodup.filterMap ?_
  intro path other found here there
  simp only [Option.map_map, Option.mem_def, Option.map_eq_some_iff] at here there
  obtain ⟨_, _, rfl⟩ := here
  obtain ⟨_, _, same⟩ := there
  exact same.symm

/-- The files that could not be read are different files, too. -/
theorem nodup_unreadable {paths : List Path} (nodup : paths.Nodup) (tree : FileTree) :
    ((Sources.read tree paths).unreadable.map (·.issue)).Nodup := by
  apply List.Nodup.of_map ReadIssue.file
  rw [List.map_map, Sources.read, List.map_filterMap]
  refine nodup.filterMap ?_
  intro path other found here there
  obtain ⟨source, made, rfl⟩ := Option.map_eq_some_iff.mp here
  obtain ⟨source', made', same⟩ := Option.map_eq_some_iff.mp there
  split at made
  · split at made'
    · cases made
      cases made'
      exact same.symm
    · cases made'
  · cases made

/-- No file is reported twice as one that cannot be read, neither among the sources nor among the
properties files; the messages tell a source from a properties file. -/
theorem nodup_readIssues (made : project.MadeFrom tree choice) :
    (project.readIssues (project.sources tree)).Nodup := by
  obtain ⟨paths, found, _, issues⟩ := made.properties
  rw [Project.readIssues, issues, List.nodup_append']
  refine ⟨nodup_unreadable made.nodup_files tree, ?_, ?_⟩
  · refine (nodup_findFiles found).filterMap ?_
    intro path other issue here there
    rw [← (file_of_readIssue? here).1, ← (file_of_readIssue? there).1]
  · intro issue here there
    obtain ⟨source, _, rfl⟩ := List.mem_map.mp here
    obtain ⟨path, _, failed⟩ := List.mem_filterMap.mp there
    obtain ⟨_, more, same⟩ := file_of_readIssue? failed
    have letters : some 'p' = some 'f' := congrArg (fun text : Text => text[15]?) same
    cases letters

end MessageKeys
