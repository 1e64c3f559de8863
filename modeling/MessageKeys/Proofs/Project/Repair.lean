import MessageKeys.Command.Run
import MessageKeys.Proofs.FileTree.Saving
import MessageKeys.Proofs.Issue.Undefined
import MessageKeys.Proofs.Project.Opening
import MessageKeys.Proofs.Properties.Batch

/-!
Adding all undefined keys of a project converges.

The keys that are reported are distinct and defined in no file, so that the first properties file
takes every one of them (`editFile_newKeys`). All other files are read as before, and no file gives
another template to a key that was defined; hence the reloaded catalog is the old one with the new
keys in addition (`template?_added`), and no reference is left without a definition.
The command does this for the project that it opens (`run_fix`, `catalog_of_load`).
-/
namespace MessageKeys

open Properties

namespace Properties

/-- The definitions of keys with empty templates. -/
def newKeys (file : Path) (keys : List Text) : List Addition := keys.map fun key => ⟨file, key, []⟩

theorem isTemplate_nil : IsTemplate [] := ⟨rfl, List.not_mem_nil⟩

theorem additions_newKeys (file : Path) {keys : List Text} (writable : ∀ key ∈ keys, IsKey key) :
    additions (newKeys file keys) = newKeys file keys := by
  unfold additions newKeys
  induction keys with
  | nil => rfl
  | cons key more ih =>
    have isKey := writable key List.mem_cons_self
    have kept : Addition.trimmed? ⟨file, key, []⟩ = some ⟨file, key, []⟩ := by
      have trimmed : Text.trim key = key := isKey.trimmed
      have blank : Text.trim [] = [] := rfl
      simp only [Addition.trimmed?, trimmed, blank, if_neg isKey.filled]
    rw [List.map_cons, List.filterMap_cons, kept, ih fun other member =>
      writable other (List.mem_cons_of_mem _ member)]

theorem lookup_newKeys (file : Path) (keys : List Text) (key : Text) :
    ((newKeys file keys).map fun addition => (addition.key, addition.value)).lookup key =
      if key ∈ keys then some [] else none := by
  induction keys with
  | nil => rfl
  | cons first more ih =>
    rw [newKeys, List.map_cons, List.map_cons, List.lookup_cons, ← newKeys, ih]
    by_cases same : key = first
    · simp [same]
    · simp [same, beq_false_of_ne same]

/-- New keys are all added to a file that can be read, and no other file changes. -/
theorem editFile_newKeys {tree : FileTree} {file : Path} {old : Text} {keys : List Text}
    (read : tree.readText file = .ok old) (writable : ∀ key ∈ keys, IsKey key)
    (nodup : keys.Nodup) (fresh : ∀ key ∈ keys, (definitions old).lookup key = none)
    (filled : keys ≠ []) :
    ∃ route new, tree.resolve file = .ok route ∧ tree.at? route = some (.file (.text old)) ∧
      Route.isAbove route = false ∧
      (∀ key, (definitions new).lookup key =
        ((definitions old).lookup key).or (if key ∈ keys then some [] else none)) ∧
      edit tree (newKeys file keys) =
        ⟨tree.put route (.file (.text new)), .ok ⟨keys.length, 0, keys.length, 1⟩⟩ := by
  have allWritable : ∀ addition ∈ newKeys file keys,
      IsKey addition.key ∧ IsTemplate addition.value := by
    intro addition member
    obtain ⟨key, inside, rfl⟩ := List.mem_map.mp member
    exact ⟨writable key inside, isTemplate_nil⟩
  have count : (insertAll old (newKeys file keys)).2 = keys.length := by
    have distinctKeys : ((newKeys file keys).map (·.key)).Nodup := by
      rw [newKeys, List.map_map]
      simpa [Function.comp_def] using nodup
    have allFresh : ∀ addition ∈ newKeys file keys,
        (definitions old).lookup addition.key = none := by
      intro addition member
      obtain ⟨key, inside, rfl⟩ := List.mem_map.mp member
      exact fresh key inside
    rw [insertAll_count allWritable distinctKeys allFresh, newKeys, List.length_map]
  have one : edit tree (newKeys file keys) = editFile tree file (newKeys file keys) := by
    have same := additions_newKeys file writable
    have single : ∀ request ∈ newKeys file keys, request.file = file := by
      intro request member
      obtain ⟨key, _, rfl⟩ := List.mem_map.mp member
      rfl
    rw [edit_of_one_file single (by rw [same]; simpa [newKeys] using filled), same]
  obtain ⟨route, resolved, found, inside, saved⟩ :=
    FileTree.save_of_readText read (insertAll old (newKeys file keys)).1
  refine ⟨route, (insertAll old (newKeys file keys)).1, resolved, found, inside, ?_, ?_⟩
  · intro key
    rw [lookup_insertAll allWritable, lookup_newKeys]
  · have length : (newKeys file keys).length = keys.length := List.length_map _
    have positive : keys.length ≠ 0 := by simpa using filled
    simp only [one, editFile, contentToEdit_of_readText read, count, length, saved,
      if_neg positive, Nat.sub_self]

/-! ## Loading again -/

section Reloaded

variable {tree : FileTree} {route : Route} {old new : Text} {path : Path}

/-- A path of the file that was written gives the new definitions. -/
theorem templateIn?_written (inside : Route.isAbove route = false)
    (taken : tree.at? route = some (.file (.text old))) (here : tree.resolve path = .ok route)
    (key : Text) :
    templateIn? (tree.put route (.file (.text new))) key path = (definitions new).lookup key := by
  have read : (tree.put route (.file (.text new))).readText path = .ok new :=
    (FileTree.readText_put inside taken path new).mpr (.inl ⟨here, rfl⟩)
  rw [templateIn?, read]
  rfl

/-- Other paths give what they gave before. -/
theorem templateIn?_kept (inside : Route.isAbove route = false)
    (taken : tree.at? route = some (.file (.text old))) (elsewhere : tree.resolve path ≠ .ok route)
    (key : Text) :
    templateIn? (tree.put route (.file (.text new))) key path = templateIn? tree key path := by
  have same : ∀ text, (tree.put route (.file (.text new))).readText path = .ok text ↔
      tree.readText path = .ok text := by
    intro text
    rw [FileTree.readText_put inside taken]
    simp [elsewhere]
  unfold templateIn?
  cases before : tree.readText path with
  | ok text => rw [(same text).mpr before]
  | error cause =>
    cases after : (tree.put route (.file (.text new))).readText path with
    | ok text =>
      rw [(same text).mp after] at before
      cases before
    | error other => rfl

theorem templateIn?_of_resolve (taken : tree.at? route = some (.file (.text old)))
    (here : tree.resolve path = .ok route) (key : Text) :
    templateIn? tree key path = (definitions old).lookup key := by
  rw [templateIn?, FileTree.readText_eq_ok.mpr ⟨route, here, taken⟩]
  rfl

end Reloaded

/-- The catalog of the same files after new keys were added to one of them. -/
theorem template?_added {tree : FileTree} {route : Route} {old new : Text} {file : Path}
    {paths : List Path} {keys : List Text} (inside : Route.isAbove route = false)
    (taken : tree.at? route = some (.file (.text old))) (here : tree.resolve file = .ok route)
    (member : file ∈ paths)
    (fresh : ∀ key ∈ keys, (loadedCatalog tree paths).template? key = none)
    (added : ∀ key, (definitions new).lookup key =
      ((definitions old).lookup key).or (if key ∈ keys then some [] else none)) (key : Text) :
    (loadedCatalog (tree.put route (.file (.text new))) paths).template? key =
      if key ∈ keys then some [] else (loadedCatalog tree paths).template? key := by
  simp only [template?_loadedCatalog] at fresh ⊢
  by_cases isNew : key ∈ keys
  · have undefined := List.findSome?_eq_none_iff.mp (fresh key isNew)
    have unset : (definitions old).lookup key = none := by
      rw [← templateIn?_of_resolve taken here]
      exact undefined file member
    have first : templateIn? (tree.put route (.file (.text new))) key file = some [] := by
      rw [templateIn?_written inside taken here, added, unset, if_pos isNew]
      rfl
    rw [if_pos isNew]
    cases found : paths.findSome? (templateIn? (tree.put route (.file (.text new))) key) with
    | none =>
      rw [List.findSome?_eq_none_iff.mp found file member] at first
      cases first
    | some value =>
      obtain ⟨path, listed, given⟩ := List.exists_of_findSome?_eq_some found
      by_cases there : tree.resolve path = .ok route
      · rw [templateIn?_written inside taken there, added, unset, if_pos isNew] at given
        exact given.symm
      · rw [templateIn?_kept inside taken there, undefined path listed] at given
        cases given
  · rw [if_neg isNew]
    have each : templateIn? (tree.put route (.file (.text new))) key = templateIn? tree key := by
      funext path
      by_cases there : tree.resolve path = .ok route
      · rw [templateIn?_written inside taken there, added, if_neg isNew, Option.or_none,
          templateIn?_of_resolve taken there]
      · exact templateIn?_kept inside taken there key
    rw [each]

end Properties

/-! ## The command -/

/-- The line that tells how many keys would be added. -/
def wouldInsert (count : Nat) (file : Path) : Styled :=
  .line (.styled (.boldColored .yellow) "Would insert".toList ++
    .plain (' ' :: Text.ofNat count ++ " key(s) into ".toList ++ file ++ ['.']))

/-- The line that tells how many keys were added. -/
def inserted (count processed : Nat) (file : Path) : Styled :=
  .line (.styled (.boldColored .green) "Inserted".toList ++
    .plain (' ' :: Text.ofNat count ++ " key(s) into ".toList ++ file ++ " (processed ".toList ++
      Text.ofNat processed ++ " key(s)).".toList))

/-- A fix that found nothing to do. -/
def nothingToFix (tree : FileTree) : Outcome :=
  .printed tree (Report.success "No undefined message keys".toList) .success

/-- The command works on the project that its options choose. -/
theorem run_fix {tree : FileTree} {options : CommonOptions} {project : Project}
    (opened : (Project.load tree options.choice).project = .ok project) (apply : Bool)
    (file? : Option Path) :
    let keys := undefinedKeys (project.undefinedKeyIssues (project.sources tree))
    let ran := Command.run tree (.fix apply file? options)
    let fixed := Command.fixKeys project tree keys apply file?
    ran.tree = fixed.tree ∧ ran.output = fixed.output := by
  have kept : ∀ (count : Nat) (verbose : Bool) (outcome : Outcome),
      (Command.withUnreadable count verbose outcome).tree = outcome.tree ∧
        (Command.withUnreadable count verbose outcome).output = outcome.output := by
    intro count verbose outcome
    unfold Command.withUnreadable
    split <;> exact ⟨rfl, rfl⟩
  simp only [Command.run, Command.runFix, onProject, opened, Outcome.after]
  exact kept _ _ _

/-- What a fix of new keys does. -/
theorem fixKeys_newKeys {tree : FileTree} {project : Project} {paths : List Path}
    {keys : List Text} (loaded : project.catalog = loadedCatalog tree paths)
    (filled : project.catalog.files ≠ []) (writable : ∀ key ∈ keys, IsKey key)
    (nodup : keys.Nodup) (fresh : ∀ key ∈ keys, project.catalog.template? key = none)
    (any : keys ≠ []) :
    (∃ file shown hint, project.defaultFile? = some file ∧
      (Command.fixKeys project tree keys false none).output =
        shown ++ wouldInsert keys.length file ++ hint ∧
      (Command.fixKeys project tree keys true none).output =
        inserted keys.length keys.length file) ∧
    ∀ key, (loadedCatalog (Command.fixKeys project tree keys true none).tree paths).template? key =
      if key ∈ keys then some [] else project.catalog.template? key := by
  obtain ⟨file, more, files⟩ := List.exists_cons_of_ne_nil filled
  have target : project.defaultFile? = some file := by
    rw [Project.defaultFile?, files]
    rfl
  have read : file ∈ paths ∧ ∃ old, tree.readText file = .ok old := by
    have member : file ∈ project.catalog.files := by simp [files]
    rw [loaded, files_loadedCatalog, List.mem_filter] at member
    refine ⟨member.1, ?_⟩
    cases content : tree.readText file with
    | error cause => simp [content, Except.toOption] at member
    | ok old => exact ⟨old, rfl⟩
  obtain ⟨listed, old, read⟩ := read
  have unset : ∀ key ∈ keys, (definitions old).lookup key = none := by
    intro key member
    have undefined := fresh key member
    rw [loaded, template?_loadedCatalog, List.findSome?_eq_none_iff] at undefined
    simpa [templateIn?, read, Except.toOption] using undefined file listed
  obtain ⟨route, new, resolved, taken, inside, added, edited⟩ :=
    editFile_newKeys read writable nodup unset any
  have chosen : (none <|> project.defaultFile?) = some file := target
  have applied : Command.fixKeys project tree keys true none =
      .printed (tree.put route (.file (.text new))) (inserted keys.length keys.length file)
        .success := by
    simp only [Command.fixKeys, if_neg any, chosen, if_true, Command.applyFix]
    rw [← newKeys, edited]
    rfl
  have dry : (Command.fixKeys project tree keys false none).output =
      (additions (newKeys file keys)).flatMap (·.preview) ++ wouldInsert keys.length file ++
        .line (.literal "Run with " ++ .styled (.colored .cyan) "--apply".toList ++
          .literal " to insert these keys.") := by
    have length : (newKeys file keys).length = keys.length := List.length_map _
    simp only [Command.fixKeys, if_neg any, chosen, Bool.false_eq_true, if_false,
      Command.previewFix]
    rw [← newKeys, length]
    rfl
  refine ⟨⟨file, _, _, target, dry, ?_⟩, ?_⟩
  · rw [applied]
    rfl
  · intro key
    rw [applied, loaded]
    rw [loaded] at fresh
    exact template?_added inside taken resolved listed fresh added key

/-- Nothing is reported once all keys that were reported have been added. -/
theorem undefinedKeyIssues_added {sources : List SourceFile} {references : Matcher}
    {before after : Catalog}
    (templates : ∀ key, after.template? key =
      if key ∈ undefinedKeys (undefinedKeyIssues sources references before) then some []
      else before.template? key) :
    undefinedKeyIssues sources references after = [] := by
  apply undefinedKeyIssues_eq_nil
  intro file inside reference found
  rw [Catalog.contains_eq, templates]
  split
  · rfl
  · next known =>
    rw [← Catalog.contains_eq, ← Bool.not_eq_false]
    intro undefined
    exact known (mem_undefinedKeys.mpr ⟨undefined, file, inside, reference, found, rfl⟩)

/-- A fix gives every key that was undefined an empty template, in number as announced, leaves every
other key its template, and leaves nothing to fix. -/
theorem fixKeys_converges {tree : FileTree} {project : Project} {sources : Sources}
    {paths : List Path} (loaded : project.catalog = loadedCatalog tree paths)
    (filled : project.catalog.files ≠ [])
    (writable : ∀ issue ∈ project.undefinedKeyIssues sources, IsKey issue.key) :
    let keys := undefinedKeys (project.undefinedKeyIssues sources)
    let dry := Command.fixKeys project tree keys false none
    let applied := Command.fixKeys project tree keys true none
    let again : Project := { project with catalog := loadedCatalog applied.tree paths }
    (keys = [] ∧ dry = nothingToFix tree ∧ applied = nothingToFix tree ∨
      ∃ file shown hint, project.defaultFile? = some file ∧
        dry.output = shown ++ wouldInsert keys.length file ++ hint ∧
        applied.output = inserted keys.length keys.length file) ∧
    (∀ key, project.catalog.contains key = true →
      again.catalog.template? key = project.catalog.template? key) ∧
    (∀ key ∈ keys, again.catalog.template? key = some []) ∧
    again.undefinedKeyIssues sources = [] ∧
    ∀ apply, Command.fixKeys again applied.tree
        (undefinedKeys (again.undefinedKeyIssues sources)) apply none =
      nothingToFix applied.tree := by
  intro keys dry applied again
  have undefined : ∀ key ∈ keys, project.catalog.contains key = false :=
    fun key member => (mem_undefinedKeys.mp member).1
  have isKey : ∀ key ∈ keys, IsKey key := by
    intro key member
    obtain ⟨issue, reported, rfl⟩ := List.mem_map.mp (mem_distinct.mp member)
    exact writable issue reported
  have fresh : ∀ key ∈ keys, project.catalog.template? key = none := by
    intro key member
    have absent := undefined key member
    rwa [Catalog.contains_eq, Option.isSome_eq_false_iff, Option.isNone_iff_eq_none] at absent
  -- Everything else follows from what the reloaded catalog gives for every key.
  obtain ⟨counts, templates⟩ : (keys = [] ∧ dry = nothingToFix tree ∧ applied = nothingToFix tree ∨
      ∃ file shown hint, project.defaultFile? = some file ∧
        dry.output = shown ++ wouldInsert keys.length file ++ hint ∧
        applied.output = inserted keys.length keys.length file) ∧
      ∀ key, again.catalog.template? key =
        if key ∈ keys then some [] else project.catalog.template? key := by
    by_cases none : keys = []
    · have idle : ∀ apply, Command.fixKeys project tree keys apply Option.none =
          nothingToFix tree := by
        intro apply
        rw [Command.fixKeys, if_pos none]
        rfl
      refine ⟨.inl ⟨none, idle false, idle true⟩, ?_⟩
      intro key
      have same : applied = nothingToFix tree := idle true
      rw [if_neg (by simp [none]), loaded]
      simp only [again, same]
      rfl
    · obtain ⟨counts, templates⟩ :=
        fixKeys_newKeys loaded filled isKey (nodup_undefinedKeys _) fresh none
      exact ⟨.inr counts, templates⟩
  have settled : again.undefinedKeyIssues sources = [] := undefinedKeyIssues_added templates
  refine ⟨counts, ?_, ?_, settled, ?_⟩
  · intro key defined
    rw [templates, if_neg]
    intro isNew
    rw [undefined key isNew] at defined
    cases defined
  · intro key isNew
    rw [templates, if_pos isNew]
  · intro apply
    rw [settled]
    rfl

/-- Two properties files with one key in common. -/
def twoFiles : FileTree :=
  ⟨[(["a.properties".toList], .file (.text "x=1\n".toList)),
    (["b.properties".toList], .file (.text "# more\ny=2\r\nx=3".toList))]⟩

def twoPaths : List Path := ["a.properties".toList, "b.properties".toList]

/-- A project with these files and calls of one method. -/
def twoFileProject : Project where
  config := Config.default
  root := ['.']
  files := []
  catalog := loadedCatalog twoFiles twoPaths
  propertiesIssues := []
  methods := []
  references := ⟨Call.MethodName.ofTexts ["get".toList], []⟩

def callsOfGet : Sources where
  readable := [⟨"A.java".toList, "get(\"b\", 1); m.get('x'); get(\" z \"); get(\"b\");".toList⟩]
  unreadable := []

theorem fixKeys_converges_twoFiles :
    twoFileProject.catalog.files ≠ [] ∧
      (∀ issue ∈ twoFileProject.undefinedKeyIssues callsOfGet, IsKey issue.key) ∧
      let keys := undefinedKeys (twoFileProject.undefinedKeyIssues callsOfGet)
      let applied := Command.fixKeys twoFileProject twoFiles keys true none
      let again : Project :=
        { twoFileProject with catalog := loadedCatalog applied.tree twoPaths }
      keys = ["b".toList, "z".toList] ∧ again.undefinedKeyIssues callsOfGet = [] ∧
        ∀ key ∈ keys, again.catalog.template? key = some [] := by
  have filled : twoFileProject.catalog.files ≠ [] := by decide +kernel
  have inOrder : twoFileProject.undefinedKeyIssues callsOfGet =
      callsOfGet.readable.flatMap (·.undefinedKeyIssues twoFileProject.references
        twoFileProject.catalog) :=
    List.mergeSort_of_pairwise (by decide +kernel)
  have writable : ∀ issue ∈ twoFileProject.undefinedKeyIssues callsOfGet, IsKey issue.key := by
    rw [inOrder]
    decide +kernel
  have loaded : twoFileProject.catalog = loadedCatalog twoFiles twoPaths := rfl
  obtain ⟨_, _, added, settled, _⟩ := fixKeys_converges loaded filled writable
  refine ⟨filled, writable, ?_, settled, added⟩
  rw [inOrder]
  decide +kernel

end MessageKeys
