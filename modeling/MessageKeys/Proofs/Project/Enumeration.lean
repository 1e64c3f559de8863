import Mathlib.Data.List.Nodup
import MessageKeys.Proofs.Issue.Placeholders
import MessageKeys.Proofs.Issue.Undefined

/-!
The order in which files are read does not show in the result of a check.

Source files are read in no particular order. Whatever it is, a check finds the same issues up to
their order (`perm_findings`), and sorts them at the end. Sorting leaves nothing of the order if it
tells all issues apart, and it does: issues that it does not tell apart are the same issue
(`Issue.IsFinding.eq_of_order_eq`), since a place of a file has one line of text, one issue of each
placeholder rule and one undefined key of each name.
-/
namespace MessageKeys

/-! ## Issues that the order does not tell apart -/

theorem Issue.order_eq_eq {issue other : Issue} (tied : issue.order other = .eq) :
    issue.file = other.file ∧ issue.line = other.line ∧ issue.column = other.column ∧
      issue.rule.rank = other.rule.rank ∧ issue.message = other.message := by
  simpa only [Issue.order, Ordering.then_eq_eq, Std.LawfulEqOrd.compare_eq_iff_eq] using tied

/-- The rules on placeholders come before all others. -/
theorem Rule.rank_ofKind_lt (kind : DiagnosticKind) :
    (ofKind kind).rank < Rule.undefinedKey.rank := by
  cases kind <;> decide

section UndefinedKeys

variable {file : SourceFile} {references : Matcher} {catalog : Catalog}
  {issue other : UndefinedKeyIssue}

/-- An undefined key stands at a place of its file and shows the line of this place. -/
theorem context_of_mem_undefinedKeyIssues
    (member : issue ∈ file.undefinedKeyIssues references catalog) :
    issue.context.location.file = file.path ∧
      issue.context.sourceLine =
        (LineIndex.ofText file.text).lineText issue.context.location.line := by
  obtain ⟨reference, _, _, rfl⟩ := exists_of_mem_fileUndefinedKeyIssues member
  exact ⟨rfl, rfl⟩

theorem undefinedKeyIssue_eq (here : issue ∈ file.undefinedKeyIssues references catalog)
    (there : other ∈ file.undefinedKeyIssues references catalog)
    (place : issue.context.location = other.context.location) (keys : issue.key = other.key) :
    issue = other := by
  have lines : issue.context.sourceLine = other.context.sourceLine := by
    rw [(context_of_mem_undefinedKeyIssues here).2, (context_of_mem_undefinedKeyIssues there).2,
      place]
  obtain ⟨⟨location, sourceLine⟩, key⟩ := issue
  obtain ⟨⟨location', sourceLine'⟩, key'⟩ := other
  cases place
  cases lines
  cases keys
  rfl

end UndefinedKeys

variable {project : Project} {sources others : Sources}

/-- An issue that checks can find: one of a file that was read, or a file that was not. -/
def Issue.IsFinding (project : Project) (sources : Sources) : Issue → Prop
  | placeholder issue =>
    ∃ file ∈ sources.readable, issue ∈ file.placeholderIssues project.methods project.catalog
  | undefinedKey issue =>
    ∃ file ∈ sources.readable, issue ∈ file.undefinedKeyIssues project.references project.catalog
  | unreadable issue => issue ∈ project.readIssues sources

/-- Findings that the order of issues does not tell apart are the same. -/
theorem Issue.IsFinding.eq_of_order_eq (one : OneTextEach sources.readable) {issue other : Issue}
    (here : issue.IsFinding project sources) (there : other.IsFinding project sources)
    (tied : issue.order other = .eq) : issue = other := by
  obtain ⟨files, lines, columns, ranks, messages⟩ := Issue.order_eq_eq tied
  -- The rank separates the three kinds of issues.
  cases issue with
  | placeholder issue =>
    have low := Rule.rank_ofKind_lt issue.kind
    cases other with
    | placeholder other =>
      have place : issue.context.location = other.context.location :=
        Location.ext files lines columns
      rw [one.placeholderIssue_eq here there place (Rule.kind_eq_of_rank ranks)]
    | undefinedKey other => exact absurd ranks (Nat.ne_of_lt low)
    | unreadable other => exact absurd ranks (Nat.ne_of_lt (Nat.lt_succ_of_lt low))
  | undefinedKey issue =>
    cases other with
    | placeholder other =>
      exact absurd ranks (Nat.ne_of_gt (Rule.rank_ofKind_lt other.kind))
    | undefinedKey other =>
      obtain ⟨file, listed, inside⟩ := here
      obtain ⟨file', listed', inside'⟩ := there
      have place : issue.context.location = other.context.location :=
        Location.ext files lines columns
      have paths : file.path = file'.path := by
        rw [← (context_of_mem_undefinedKeyIssues inside).1,
          ← (context_of_mem_undefinedKeyIssues inside').1, place]
      rw [← one file listed file' listed' paths] at inside'
      rw [undefinedKeyIssue_eq inside inside' place messages]
    | unreadable other => cases ranks
  | unreadable issue =>
    cases other with
    | placeholder other =>
      exact absurd ranks (Nat.ne_of_gt (Nat.lt_succ_of_lt (Rule.rank_ofKind_lt other.kind)))
    | undefinedKey other => cases ranks
    | unreadable other =>
      obtain ⟨file, error⟩ := issue
      obtain ⟨file', error'⟩ := other
      cases files
      cases messages
      rfl

/-! ## What checks find -/

/-- What checks find, in the order in which they find it. -/
def Project.findings (project : Project) (sources : Sources) (checks : List Check) : List Issue :=
  (requested checks).flatMap (project.issuesOf sources) ++
    (project.readIssues sources).map .unreadable

theorem isFinding_of_mem_findings {checks : List Check} {issue : Issue}
    (member : issue ∈ project.findings sources checks) : issue.IsFinding project sources := by
  rcases List.mem_append.mp member with found | failed
  · obtain ⟨check, _, inside⟩ := List.mem_flatMap.mp found
    cases check with
    | placeholder =>
      obtain ⟨issue, sorted, rfl⟩ := List.mem_map.mp inside
      exact exists_file_of_mem_placeholderIssues sorted
    | undefinedKey =>
      obtain ⟨issue, sorted, rfl⟩ := List.mem_map.mp inside
      exact exists_file_of_mem_undefinedKeyIssues sorted
  · obtain ⟨issue, inside, rfl⟩ := List.mem_map.mp failed
    exact inside

/-- What several files give is the same for every order of the files, sorted or not. -/
theorem perm_mergeSort_flatMap {α β : Type} {files files' : List α} (perm : files.Perm files')
    (find : α → List β) (le : β → β → Bool) :
    ((files.flatMap find).mergeSort le).Perm ((files'.flatMap find).mergeSort le) :=
  (List.mergeSort_perm _ _).trans
    ((perm.flatMap_right find).trans (List.mergeSort_perm _ _).symm)

theorem perm_issuesOf (readable : sources.readable.Perm others.readable) (check : Check) :
    (project.issuesOf sources check).Perm (project.issuesOf others check) := by
  cases check with
  | placeholder => exact (perm_mergeSort_flatMap readable _ _).map _
  | undefinedKey => exact (perm_mergeSort_flatMap readable _ _).map _

/-- However the files are enumerated, checks find the same. -/
theorem perm_findings (readable : sources.readable.Perm others.readable)
    (unreadable : sources.unreadable.Perm others.unreadable) (checks : List Check) :
    (project.findings sources checks).Perm (project.findings others checks) := by
  apply List.Perm.append
  · exact List.Perm.flatMap_left _ fun check _ => perm_issuesOf readable check
  · exact ((unreadable.map _).append_right _).map _

theorem oneTextEach_of_nodup {files : List SourceFile}
    (distinctPaths : (files.map (·.path)).Nodup) : OneTextEach files :=
  fun _ here _ there same => List.inj_on_of_nodup_map distinctPaths here there same

/-- The result of a check, its issues in their order and its counts, is the same for every order in
which the files of the project, those that were read and those that could not be read are
enumerated. -/
theorem check_eq_of_perm (project : Project) (files : List Path) (sources others : Sources)
    (checks : List Check) (distinctPaths : (sources.readable.map (·.path)).Nodup)
    (listed : project.files.Perm files)
    (readable : sources.readable.Perm others.readable)
    (unreadable : sources.unreadable.Perm others.unreadable) :
    project.check sources checks = { project with files }.check others checks := by
  have one := oneTextEach_of_nodup distinctPaths
  have sorted : ((project.findings sources checks).mergeSort fun a b => (a.order b).isLE) =
      (project.findings others checks).mergeSort fun a b => (a.order b).isLE := by
    apply mergeSort_eq_of_perm (perm_findings readable unreadable checks)
    intro issue here other there tied
    exact (isFinding_of_mem_findings here).eq_of_order_eq one (isFinding_of_mem_findings there) tied
  have count : project.files.length = files.length := listed.length_eq
  simp only [Project.check, CheckResult.ofIssues, count]
  exact congrArg (CheckResult.mk · files.length project.catalog.files.length) sorted

/-- A project that defines one key and calls one method. -/
def oneKeyProject : Project where
  config := Config.default
  root := ['.']
  files := ["A.java".toList, "B.java".toList, "C.java".toList, "D.java".toList]
  catalog := Catalog.empty.load "m.properties".toList "k=\x7b1\x7d".toList
  propertiesIssues := [⟨"n.properties".toList, "unreadable".toList⟩]
  methods := Call.MethodName.ofTexts ["log".toList, "og".toList]
  references := ⟨Call.MethodName.ofTexts ["log".toList], []⟩

/-- Two files with issues of every rule, and two that cannot be read. -/
def mixedSources : Sources where
  readable := [⟨"A.java".toList, "log(\"k\", 1); log(\"z\", 1);".toList⟩,
    ⟨"B.java".toList, "log(\"z\"); log(\"k\");".toList⟩]
  unreadable := [⟨"C.java".toList, .notText⟩, ⟨"D.java".toList, .notFound⟩]

/-- The same files, enumerated backwards. -/
theorem check_eq_of_perm_reversed :
    (mixedSources.readable.map (·.path)).Nodup ∧
      (∀ file ∈ mixedSources.readable,
        file.placeholderIssues oneKeyProject.methods oneKeyProject.catalog ≠ [] ∧
          file.undefinedKeyIssues oneKeyProject.references oneKeyProject.catalog ≠ []) ∧
      oneKeyProject.check mixedSources [.undefinedKey, .placeholder] =
        { oneKeyProject with files := oneKeyProject.files.reverse }.check
          ⟨mixedSources.readable.reverse, mixedSources.unreadable.reverse⟩
          [.undefinedKey, .placeholder] := by
  have distinctPaths : (mixedSources.readable.map (·.path)).Nodup := by decide
  refine ⟨distinctPaths, by decide +kernel, ?_⟩
  exact check_eq_of_perm _ _ _ _ _ distinctPaths (List.reverse_perm _).symm
    (List.reverse_perm _).symm (List.reverse_perm _).symm

end MessageKeys
