import MessageKeys.Proofs.Call.Overlap
import MessageKeys.Proofs.Project.Enumeration
import MessageKeys.Proofs.Project.Opening

/-!
When a check reports a problem more than once.

A problem is a rule on placeholders that is broken at a place, or an undefined key at a place. Of
the references at a place the one rule keeps the first, so that it reports every problem once
(`pairwise_fileUndefinedKeyIssues`). The other rule reports a call as often as the methods find it,
which is more than once where the name of one method ends with the name of another
(`pairwise_filePlaceholderIssues_iff`). And every rule is run as often as it is asked for. A check
therefore reports problems once exactly when no check that finds something is asked for twice and no
call that breaks a rule is found twice.
-/
namespace MessageKeys

open Call

/-! ## Problems -/

/-- One placeholder rule broken at one place. -/
def PlaceholderIssue.SameProblem (issue other : PlaceholderIssue) : Prop :=
  issue.context.location = other.context.location ∧ issue.kind = other.kind

/-- One undefined key at one place. -/
def UndefinedKeyIssue.SameProblem (issue other : UndefinedKeyIssue) : Prop :=
  issue.context.location = other.context.location ∧ issue.key = other.key

/-- Issues that report one problem. -/
def Issue.SameProblem : Issue → Issue → Prop
  | placeholder issue, placeholder other => issue.SameProblem other
  | undefinedKey issue, undefinedKey other => issue.SameProblem other
  | _, _ => False

theorem PlaceholderIssue.SameProblem.symm {issue other : PlaceholderIssue}
    (same : issue.SameProblem other) : other.SameProblem issue :=
  ⟨same.1.symm, same.2.symm⟩

theorem UndefinedKeyIssue.SameProblem.symm {issue other : UndefinedKeyIssue}
    (same : issue.SameProblem other) : other.SameProblem issue :=
  ⟨same.1.symm, same.2.symm⟩

theorem Issue.SameProblem.symm {issue other : Issue} (same : issue.SameProblem other) :
    other.SameProblem issue := by
  cases issue with
  | placeholder issue =>
    cases other with
    | placeholder other => exact PlaceholderIssue.SameProblem.symm same
    | undefinedKey other => exact same.elim
    | unreadable other => exact same.elim
  | undefinedKey issue =>
    cases other with
    | placeholder other => exact same.elim
    | undefinedKey other => exact UndefinedKeyIssue.SameProblem.symm same
    | unreadable other => exact same.elim
  | unreadable issue => cases other <;> exact same.elim

/-- No two issues of a result report one problem. -/
def CheckResult.ReportsOnce (result : CheckResult) : Prop :=
  result.issues.Pairwise fun issue other => ¬ issue.SameProblem other

/-! ## The issues of one file -/

/-- Nothing is wrong with a call, or its key has no template. -/
def Call.Site.fits (catalog : Catalog) (site : Site) : Bool :=
  ((catalog.template? site.key).toList.flatMap (Diagnostic.ofSite site)).isEmpty

section Files

variable {file : SourceFile} {methods : List MethodName} {catalog : Catalog}

/-- The issues of one call. -/
def SourceFile.issuesAt (file : SourceFile) (catalog : Catalog) (site : Site) :
    List PlaceholderIssue :=
  match catalog.get? site.key with
  | none => []
  | some entry =>
    (Diagnostic.ofSite site entry.value).map
      (PlaceholderIssue.ofDiagnostic (.ofText file.text) file.path site entry.value)

theorem placeholderIssues_eq_issuesAt (file : SourceFile) (methods : List MethodName)
    (catalog : Catalog) :
    file.placeholderIssues methods catalog =
      (sites file.text methods).flatMap (file.issuesAt catalog) := rfl

theorem issuesAt_eq_nil_iff (file : SourceFile) {site : Site} :
    file.issuesAt catalog site = [] ↔ site.fits catalog = true := by
  unfold SourceFile.issuesAt Site.fits Catalog.template?
  cases catalog.get? site.key with
  | none => simp
  | some entry => simp

/-- An issue of a call stands at the key of the call. -/
theorem location_of_mem_issuesAt {site : Site} {issue : PlaceholderIssue}
    (member : issue ∈ file.issuesAt catalog site) :
    issue.context = (LineIndex.ofText file.text).contextAt file.path site.keyStart := by
  unfold SourceFile.issuesAt at member
  split at member
  · cases member
  · obtain ⟨diagnostic, broken, rfl⟩ := List.mem_map.mp member
    rw [PlaceholderIssue.ofDiagnostic, Diagnostic.span_of_mem broken, Site.keySpan]

theorem pairwise_ofSite (site : Site) (template : Text) :
    (Diagnostic.ofSite site template).Pairwise fun a b => a.kind ≠ b.kind := by
  unfold Diagnostic.ofSite
  dsimp only
  split <;> split <;> simp

/-- A call breaks each rule at most once. -/
theorem pairwise_issuesAt (site : Site) :
    (file.issuesAt catalog site).Pairwise fun issue other => ¬ issue.SameProblem other := by
  unfold SourceFile.issuesAt
  split
  · exact .nil
  · rw [List.pairwise_map]
    exact (pairwise_ofSite site _).imp fun apart same => apart same.2

variable {site other : Site}

/-- A call that is found twice has the same issues both times. -/
theorem issuesAt_eq (here : site ∈ sites file.text methods)
    (there : other ∈ sites file.text methods) (position : site.keyStart = other.keyStart) :
    file.issuesAt catalog site = file.issuesAt catalog other := by
  obtain ⟨keys, arguments⟩ := site_eq_of_keyStart here there position
  have spans : site.keySpan = other.keySpan := by rw [Site.keySpan, Site.keySpan, keys, position]
  have diagnostics : Diagnostic.ofSite site = Diagnostic.ofSite other := by
    funext template
    simp only [Diagnostic.ofSite, spans, arguments]
  have made : PlaceholderIssue.ofDiagnostic (.ofText file.text) file.path site =
      PlaceholderIssue.ofDiagnostic (.ofText file.text) file.path other := by
    funext template diagnostic
    simp only [PlaceholderIssue.ofDiagnostic, keys]
  rw [SourceFile.issuesAt, SourceFile.issuesAt, keys, diagnostics, made]

/-- Two calls share a problem exactly if they are one call that breaks a rule. -/
theorem problems_apart_iff (here : site ∈ sites file.text methods)
    (there : other ∈ sites file.text methods) :
    (∀ issue ∈ file.issuesAt catalog site, ∀ again ∈ file.issuesAt catalog other,
      ¬ issue.SameProblem again) ↔
    (site.keyStart = other.keyStart → site.fits catalog = true) := by
  rw [← issuesAt_eq_nil_iff file]
  constructor
  · intro apart position
    rw [List.eq_nil_iff_forall_not_mem]
    intro issue member
    have again : issue ∈ file.issuesAt catalog other := by
      rw [← issuesAt_eq here there position]
      exact member
    exact apart issue member issue again ⟨rfl, rfl⟩
  · intro fitting issue member again member' same
    have place := same.1
    rw [location_of_mem_issuesAt member, location_of_mem_issuesAt member'] at place
    simp only [LineIndex.contextAt, Location.mk.injEq] at place
    have position := keyStart_eq_of_lineColumn here there (Prod.ext place.2.1 place.2.2)
    rw [fitting position] at member
    cases member

/-- The placeholder issues of a file report problems once exactly when no call that breaks a rule is
found twice. -/
theorem pairwise_filePlaceholderIssues_iff :
    ((file.placeholderIssues methods catalog).Pairwise fun issue other =>
      ¬ issue.SameProblem other) ↔
    (sites file.text methods).Pairwise fun site other =>
      site.keyStart = other.keyStart → site.fits catalog = true := by
  rw [placeholderIssues_eq_issuesAt, List.pairwise_flatMap]
  constructor
  · rintro ⟨_, apart⟩
    exact apart.imp_of_mem fun here there => (problems_apart_iff here there).mp
  · intro fitting
    exact ⟨fun site _ => pairwise_issuesAt site,
      fitting.imp_of_mem fun here there => (problems_apart_iff here there).mpr⟩

/-- The undefined keys of a file report problems once. -/
theorem pairwise_fileUndefinedKeyIssues (references : Matcher) :
    (file.undefinedKeyIssues references catalog).Pairwise fun issue other =>
      ¬ issue.SameProblem other := by
  rw [SourceFile.undefinedKeyIssues, List.pairwise_map]
  refine (List.pairwise_map.mp (nodup_distinctBy Reference.span [] _).1).imp_of_mem ?_
  intro reference other kept kept' spans same
  have found := (List.mem_filter.mp ((distinctBy_sublist _ _ _).subset kept)).1
  have found' := (List.mem_filter.mp ((distinctBy_sublist _ _ _).subset kept')).1
  obtain ⟨before, after, whole, start⟩ := stands_of_mem_references found
  obtain ⟨before', after', whole', start'⟩ := stands_of_mem_references found'
  have keys : reference.key = other.key := same.2
  have place := same.1
  simp only [LineIndex.contextAt, Reference.span, ← start, ← start', Location.mk.injEq] at place
  rw [List.append_assoc] at whole whole'
  have position := lineColumn_inj whole whole' (Prod.ext place.2.1 place.2.2)
  apply spans
  rw [Reference.span, Reference.span, ← start, ← start', position, keys]

/-! ## The issues of several files -/

/-- Sorted issues of several files report problems once exactly when those of each file do, if a
problem belongs to one file. -/
theorem pairwise_sorted_iff {β : Type} {files : List SourceFile}
    (distinctPaths : (files.map (·.path)).Nodup) {find : SourceFile → List β}
    {same : β → β → Prop} (symm : ∀ {a b}, same a b → same b a)
    (inFile : ∀ {file file' a b}, a ∈ find file → b ∈ find file' → same a b →
      file.path = file'.path) (le : β → β → Bool) :
    (((files.flatMap find).mergeSort le).Pairwise fun a b => ¬ same a b) ↔
      ∀ file ∈ files, (find file).Pairwise fun a b => ¬ same a b := by
  rw [(List.mergeSort_perm _ _).pairwise_iff fun apart back => apart (symm back),
    List.pairwise_flatMap]
  constructor
  · exact And.left
  · intro each
    refine ⟨each, (List.pairwise_map.mp distinctPaths).imp ?_⟩
    intro file file' apart a here b there alike
    exact apart (inFile here there alike)

end Files

/-! ## The issues of a check -/

section Checks

variable {project : Project} {sources : Sources} {checks : List Check}

/-- An issue that a check finds reports a problem. -/
theorem sameProblem_self {check : Check} {issue : Issue}
    (found : issue ∈ project.issuesOf sources check) : issue.SameProblem issue := by
  cases check with
  | placeholder =>
    obtain ⟨_, _, rfl⟩ := List.mem_map.mp found
    exact ⟨rfl, rfl⟩
  | undefinedKey =>
    obtain ⟨_, _, rfl⟩ := List.mem_map.mp found
    exact ⟨rfl, rfl⟩

/-- A problem is found by one check. -/
theorem check_eq_of_sameProblem {check check' : Check} {issue other : Issue}
    (here : issue ∈ project.issuesOf sources check)
    (there : other ∈ project.issuesOf sources check') (same : issue.SameProblem other) :
    check = check' := by
  cases check with
  | placeholder =>
    cases check' with
    | placeholder => rfl
    | undefinedKey =>
      obtain ⟨_, _, rfl⟩ := List.mem_map.mp here
      obtain ⟨_, _, rfl⟩ := List.mem_map.mp there
      exact same.elim
  | undefinedKey =>
    cases check' with
    | undefinedKey => rfl
    | placeholder =>
      obtain ⟨_, _, rfl⟩ := List.mem_map.mp here
      obtain ⟨_, _, rfl⟩ := List.mem_map.mp there
      exact same.elim

theorem not_sameProblem_unreadable (issue : Issue) (failed : ReadIssue) :
    ¬ issue.SameProblem (.unreadable failed) := by
  cases issue <;> exact id

/-- Files that cannot be read are no problems, and sorting does not matter. -/
theorem reportsOnce_iff_found :
    (project.check sources checks).ReportsOnce ↔
      ((Project.requested checks).flatMap (project.issuesOf sources)).Pairwise fun issue other =>
        ¬ issue.SameProblem other := by
  rw [CheckResult.ReportsOnce, Project.check, CheckResult.ofIssues,
    (List.mergeSort_perm _ _).pairwise_iff fun apart back => apart back.symm, List.pairwise_append]
  constructor
  · exact And.left
  · intro apart
    refine ⟨apart, ?_, ?_⟩
    · rw [List.pairwise_map]
      exact List.pairwise_of_forall fun _ _ => not_sameProblem_unreadable _ _
    · intro issue _ other failed
      obtain ⟨failure, _, rfl⟩ := List.mem_map.mp failed
      exact not_sameProblem_unreadable issue failure

/-- A list of checks reports problems once exactly when each check does, and a check that is asked
for again finds nothing. -/
theorem pairwise_checks_iff :
    ((checks.flatMap (project.issuesOf sources)).Pairwise fun issue other =>
      ¬ issue.SameProblem other) ↔
    (∀ check ∈ checks, (project.issuesOf sources check).Pairwise fun issue other =>
      ¬ issue.SameProblem other) ∧
    checks.Pairwise fun check again => check = again → project.issuesOf sources check = [] := by
  rw [List.pairwise_flatMap]
  refine and_congr_right fun _ => ⟨fun apart => apart.imp ?_, fun idle => idle.imp ?_⟩
  · rintro check _ apart rfl
    rw [List.eq_nil_iff_forall_not_mem]
    intro issue found
    exact apart issue found issue found (sameProblem_self found)
  · intro check again idle issue here other there same
    rw [idle (check_eq_of_sameProblem here there same)] at here
    cases here

/-- The calls that are found twice break no rule. -/
def SourceFile.RepeatsFit (file : SourceFile) (project : Project) : Prop :=
  (sites file.text project.methods).Pairwise fun site other =>
    site.keyStart = other.keyStart → site.fits project.catalog = true

instance (file : SourceFile) (project : Project) : Decidable (file.RepeatsFit project) :=
  inferInstanceAs (Decidable (List.Pairwise _ _))

theorem pairwise_issuesOf_placeholder_iff
    (distinctPaths : (sources.readable.map (·.path)).Nodup) :
    ((project.issuesOf sources .placeholder).Pairwise fun issue other =>
      ¬ issue.SameProblem other) ↔ ∀ file ∈ sources.readable, file.RepeatsFit project := by
  rw [Project.issuesOf, List.pairwise_map]
  refine (pairwise_sorted_iff distinctPaths PlaceholderIssue.SameProblem.symm ?_ _).trans ?_
  · intro file file' issue other here there same
    rw [← file_of_mem_placeholderIssues here, ← file_of_mem_placeholderIssues there, same.1]
  · exact forall₂_congr fun _ _ => pairwise_filePlaceholderIssues_iff

theorem pairwise_issuesOf_undefinedKey (distinctPaths : (sources.readable.map (·.path)).Nodup) :
    (project.issuesOf sources .undefinedKey).Pairwise fun issue other =>
      ¬ issue.SameProblem other := by
  rw [Project.issuesOf, List.pairwise_map]
  refine (pairwise_sorted_iff distinctPaths UndefinedKeyIssue.SameProblem.symm ?_ _).mpr ?_
  · intro file file' issue other here there same
    rw [← (context_of_mem_undefinedKeyIssues here).1,
      ← (context_of_mem_undefinedKeyIssues there).1, same.1]
  · exact fun _ _ => pairwise_fileUndefinedKeyIssues _

/-- A check reports problems once exactly when no check that finds something is asked for twice, and
calls that are found twice break no rule. -/
theorem reportsOnce_iff (distinctPaths : (sources.readable.map (·.path)).Nodup) :
    (project.check sources checks).ReportsOnce ↔
      ((Project.requested checks).Pairwise fun check again =>
        check = again → project.issuesOf sources check = []) ∧
      (.placeholder ∈ Project.requested checks →
        ∀ file ∈ sources.readable, file.RepeatsFit project) := by
  rw [reportsOnce_iff_found, pairwise_checks_iff, and_comm]
  refine and_congr_right fun _ => ⟨fun each asked => ?_, fun fitting check asked => ?_⟩
  · exact (pairwise_issuesOf_placeholder_iff distinctPaths).mp (each _ asked)
  · cases check with
    | placeholder => exact (pairwise_issuesOf_placeholder_iff distinctPaths).mpr (fitting asked)
    | undefinedKey => exact pairwise_issuesOf_undefinedKey distinctPaths

theorem nodup_requested (nodup : checks.Nodup) : (Project.requested checks).Nodup := by
  unfold Project.requested
  split
  · decide
  · exact nodup

/-- Problems are reported once if no check is asked for twice and no method name ends with
another. -/
theorem reportsOnce_of_unrelated (distinctPaths : (sources.readable.map (·.path)).Nodup)
    (trimmed : ∀ name ∈ project.methods, Text.IsTrimmed name.text) (nodup : checks.Nodup)
    (unrelated : project.methods.Pairwise MethodName.Unrelated) :
    (project.check sources checks).ReportsOnce := by
  rw [reportsOnce_iff distinctPaths]
  constructor
  · exact (nodup_requested nodup).imp fun apart same => absurd same apart
  · intro _ file _
    exact (pairwise_sites trimmed unrelated file.text).imp fun apart same => absurd same apart

/-- If problems are reported once and files that cannot be read are, no issue is listed twice. -/
theorem nodup_issues (once : (project.check sources checks).ReportsOnce)
    (failures : (project.readIssues sources).Nodup) :
    (project.check sources checks).issues.Nodup := by
  rw [Project.check, CheckResult.ofIssues, (List.mergeSort_perm _ _).nodup_iff, List.nodup_append']
  refine ⟨?_, failures.map fun _ _ same => Issue.unreadable.inj same, ?_⟩
  · refine (reportsOnce_iff_found.mp once).imp_of_mem ?_
    rintro issue _ found _ apart rfl
    obtain ⟨check, _, inside⟩ := List.mem_flatMap.mp found
    exact apart (sameProblem_self inside)
  · intro issue found failed
    obtain ⟨check, _, inside⟩ := List.mem_flatMap.mp found
    obtain ⟨failure, _, rfl⟩ := List.mem_map.mp failed
    exact sameProblem_self inside

theorem errors_check (project : Project) (sources : Sources) (checks : List Check) :
    (project.check sources checks).errors =
      (project.findings sources checks).countP fun issue => issue.severity == .error :=
  (List.mergeSort_perm _ _).countP_eq _

/-- Errors of which none is listed twice are counted once each. -/
theorem errors_eq_of_nodup {result : CheckResult} (nodup : result.issues.Nodup) :
    result.errors =
      (distinct (result.issues.filter fun issue => issue.severity == .error)).length := by
  have all : (distinct (result.issues.filter fun issue => issue.severity == .error)).Perm
      (result.issues.filter fun issue => issue.severity == .error) :=
    (List.perm_ext_iff_of_nodup (nodup_distinct _) (nodup.filter _)).mpr fun _ => mem_distinct
  rw [CheckResult.errors, List.countP_eq_length_filter, all.length_eq]

end Checks

/-- The check of an opened project reports each problem once exactly when no check that finds
something is asked for twice and calls that are found twice break no rule; so it does whenever no
check is asked for twice and no method name ends with another. Then every error is counted once. -/
theorem check_reports_once_iff {tree : FileTree} {choice : ProjectChoice} {project : Project}
    (opened : (Project.load tree choice).project = .ok project) (checks : List Check) :
    let sources := project.sources tree
    let result := project.check sources checks
    (result.ReportsOnce ↔
      ((Project.requested checks).Pairwise fun check again =>
        check = again → project.issuesOf sources check = []) ∧
      (.placeholder ∈ Project.requested checks →
        ∀ file ∈ sources.readable, file.RepeatsFit project)) ∧
    (checks.Nodup → project.methods.Pairwise MethodName.Unrelated → result.ReportsOnce) ∧
    (result.ReportsOnce → result.errors =
      (distinct (result.issues.filter fun issue => issue.severity == .error)).length) := by
  intro sources result
  have made := madeFrom_of_load opened
  have distinctPaths := nodup_readable made.nodup_files tree
  refine ⟨reportsOnce_iff distinctPaths, ?_, ?_⟩
  · intro nodup unrelated
    refine reportsOnce_of_unrelated distinctPaths ?_ nodup unrelated
    intro name listed
    rw [made.methods] at listed
    exact MethodName.isTrimmed_of_mem_ofTexts listed
  · intro once
    exact errors_eq_of_nodup (nodup_issues once (nodup_readIssues made))

/-- A project with one source file and one properties file. -/
def callingTree (source : String) : FileTree :=
  ⟨[(["A.java".toList], .file (.text source.toList)),
    (["m.properties".toList], .file (.text "k=\x7b0\x7d\n".toList))]⟩

/-- The project of this tree, opened with some methods. -/
def callingProject (methods : List Text) : Project where
  config := { Config.default with methods, propertyFileGlobs := ["*.properties".toList] }
  root := ['.']
  files := ["./A.java".toList]
  catalog := Catalog.empty.load "m.properties".toList "k=\x7b0\x7d\n".toList
  propertiesIssues := []
  methods := MethodName.ofTexts methods
  references := ⟨MethodName.ofTexts (methods ++ [Matcher.implicitMethod]), []⟩

/-- A call that two methods find fits its template; one that breaks a rule is found by one. -/
theorem check_reports_once_iff_overlapping :
    let tree := callingTree "log(\"k\", 1); og(\"k\"); log(\"z\");"
    let project := callingProject ["log".toList, "og".toList]
    (Project.load tree ⟨['.'], ["log".toList, "og".toList], ["*.properties".toList]⟩).project =
        .ok project ∧
      ¬ project.methods.Pairwise MethodName.Unrelated ∧
      (project.check (project.sources tree) []).ReportsOnce ∧
      (project.check (project.sources tree) []).errors = 1 := by
  intro tree project
  have opened : (Project.load tree ⟨['.'], ["log".toList, "og".toList],
      ["*.properties".toList]⟩).project = .ok project := by
    decide +kernel
  obtain ⟨once, _, _⟩ := check_reports_once_iff opened []
  refine ⟨opened, by decide, once.mpr ⟨by decide +kernel, fun _ => by decide +kernel⟩, ?_⟩
  rw [errors_check]
  decide +kernel

/-- A call that two methods find is reported twice if it breaks a rule. -/
theorem overlapping_names_report_twice :
    let tree := callingTree "log.info(\"k\");"
    let project := callingProject ["log.info".toList, "info".toList]
    (Project.load tree ⟨['.'], ["log.info".toList, "info".toList],
        ["*.properties".toList]⟩).project = .ok project ∧
      ¬ (project.check (project.sources tree) []).ReportsOnce ∧
      (project.check (project.sources tree) []).errors = 2 := by
  intro tree project
  have distinctPaths : ((project.sources tree).readable.map (·.path)).Nodup := by decide +kernel
  have found : project.placeholderIssues (project.sources tree) =
      (project.sources tree).readable.flatMap (·.placeholderIssues project.methods
        project.catalog) :=
    List.mergeSort_of_pairwise (by decide +kernel)
  refine ⟨by decide +kernel, ?_, ?_⟩
  · intro once
    have fitting := ((reportsOnce_iff distinctPaths).mp once).2 (by decide)
    exact absurd fitting (by decide +kernel)
  · rw [errors_check, Project.findings, Project.requested, if_pos rfl, Check.all, List.flatMap_cons,
      Project.issuesOf, found]
    decide +kernel

end MessageKeys
