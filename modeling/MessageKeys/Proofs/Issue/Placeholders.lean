import MessageKeys.Proofs.Call.KeyPosition
import MessageKeys.Proofs.Diagnostic
import MessageKeys.Proofs.Sorting
import MessageKeys.Proofs.Source.LineColumn
import MessageKeys.Project.Check

/-!
Placeholder issues and their two orders.

An issue is located at the key of its call. Since a place in a file determines the position and the
position determines the call, two issues of one rule at one place are the same issue, however many
methods found the call (`placeholderIssue_eq`). The order of placeholder issues goes by place and
rule; the order of all issues goes on to the message, which never decides between two placeholder
issues. A list that is sorted by the one order is therefore sorted by the other, and sorting it
together with other issues leaves it as it is (`placeholders_of_check`).
-/
namespace MessageKeys

open Call

/-! ## One place, one issue -/

variable {methods : List MethodName} {catalog : Catalog}

theorem exists_of_mem_placeholderIssues {file : SourceFile} {issue : PlaceholderIssue}
    (member : issue ∈ file.placeholderIssues methods catalog) :
    ∃ site ∈ sites file.text methods, ∃ entry, catalog.get? site.key = some entry ∧
      ∃ diagnostic ∈ Diagnostic.ofSite site entry.value,
        issue = .ofDiagnostic (.ofText file.text) file.path site entry.value diagnostic := by
  obtain ⟨site, found, inside⟩ := List.mem_flatMap.mp member
  cases defined : catalog.get? site.key with
  | none => simp [defined] at inside
  | some entry =>
    simp only [defined] at inside
    obtain ⟨diagnostic, broken, made⟩ := List.mem_map.mp inside
    exact ⟨site, found, entry, defined, diagnostic, broken, made.symm⟩

theorem file_of_mem_placeholderIssues {file : SourceFile} {issue : PlaceholderIssue}
    (member : issue ∈ file.placeholderIssues methods catalog) :
    issue.context.location.file = file.path := by
  obtain ⟨_, _, _, _, _, _, rfl⟩ := exists_of_mem_placeholderIssues member
  rfl

/-- A line and a column of a file belong to one position of a key. -/
theorem keyStart_eq_of_lineColumn {source : Text} {site other : Site}
    (here : site ∈ sites source methods) (there : other ∈ sites source methods)
    (place : (LineIndex.ofText source).lineColumn site.keyStart =
      (LineIndex.ofText source).lineColumn other.keyStart) : site.keyStart = other.keyStart := by
  obtain ⟨before, rest, whole, ends⟩ := exists_parts_of_site here
  obtain ⟨before', rest', whole', ends'⟩ := exists_parts_of_site there
  rw [← ends, ← ends'] at place ⊢
  rw [lineColumn_inj whole whole' place]

/-- Issues of one rule at one place of a file are the same. -/
theorem placeholderIssue_eq {file : SourceFile} {issue other : PlaceholderIssue}
    (here : issue ∈ file.placeholderIssues methods catalog)
    (there : other ∈ file.placeholderIssues methods catalog)
    (place : issue.context.location = other.context.location) (kinds : issue.kind = other.kind) :
    issue = other := by
  obtain ⟨site, found, entry, defined, diagnostic, broken, rfl⟩ :=
    exists_of_mem_placeholderIssues here
  obtain ⟨site', found', entry', defined', diagnostic', broken', rfl⟩ :=
    exists_of_mem_placeholderIssues there
  have start : diagnostic.span.start = site.keyStart := by
    rw [Diagnostic.span_of_mem broken, Site.keySpan]
  have start' : diagnostic'.span.start = site'.keyStart := by
    rw [Diagnostic.span_of_mem broken', Site.keySpan]
  have position : site.keyStart = site'.keyStart := by
    simp only [PlaceholderIssue.ofDiagnostic, LineIndex.contextAt, start, start',
      Location.mk.injEq] at place
    exact keyStart_eq_of_lineColumn found found' (Prod.ext place.2.1 place.2.2)
  obtain ⟨keys, arguments⟩ := site_eq_of_keyStart found found' position
  rw [keys, defined', Option.some.injEq] at defined
  rw [← defined] at broken ⊢
  have messages := Diagnostic.message_eq broken broken' arguments kinds
  have sameKind : diagnostic.kind = diagnostic'.kind := kinds
  simp only [PlaceholderIssue.ofDiagnostic, start, start', position, keys, messages, sameKind]

/-! ## The two orders -/

instance : Std.TransCmp PlaceholderIssue.order :=
  inferInstanceAs (Std.TransCmp
    (compareLex
      (compareLex (compareOn fun issue : PlaceholderIssue => issue.context.location.file)
        (compareLex (compareOn fun issue => issue.context.location.line)
          (compareOn fun issue => issue.context.location.column)))
      (compareOn fun issue => (Rule.ofKind issue.kind).rank)))

instance : Std.TransCmp Issue.order :=
  inferInstanceAs (Std.TransCmp
    (compareLex (compareOn Issue.file)
      (compareLex (compareOn Issue.line)
        (compareLex (compareOn Issue.column)
          (compareLex (compareOn fun issue => issue.rule.rank) (compareOn Issue.message))))))

theorem Rule.kind_eq_of_rank {kind other : DiagnosticKind}
    (ranks : (Rule.ofKind kind).rank = (Rule.ofKind other).rank) : kind = other := by
  cases kind <;> cases other <;> simp_all [Rule.ofKind, Rule.rank]

attribute [ext] Location

/-- Issues that the order of placeholder issues does not tell apart. -/
theorem PlaceholderIssue.order_eq_eq {issue other : PlaceholderIssue}
    (tied : issue.order other = .eq) :
    issue.context.location = other.context.location ∧ issue.kind = other.kind := by
  simp only [PlaceholderIssue.order, Location.order, Ordering.then_eq_eq,
    Std.LawfulEqOrd.compare_eq_iff_eq] at tied
  obtain ⟨⟨files, lines, columns⟩, ranks⟩ := tied
  exact ⟨Location.ext files lines columns, Rule.kind_eq_of_rank ranks⟩

/-- Among placeholder issues the order of all issues goes on to the message. -/
theorem Issue.order_placeholder (issue other : PlaceholderIssue) :
    (Issue.placeholder issue).order (.placeholder other) =
      (issue.order other).then (compare issue.message other.message) := by
  simp only [PlaceholderIssue.order, Location.order, Ordering.then_assoc]
  rfl

/-! ## The check -/

/-- The placeholder issue among all kinds. -/
def Issue.placeholder? : Issue → Option PlaceholderIssue
  | placeholder issue => some issue
  | undefinedKey _ => none
  | unreadable _ => none

theorem filterMap_placeholders (issues : List PlaceholderIssue) :
    (issues.map Issue.placeholder).filterMap Issue.placeholder? = issues := by
  rw [List.filterMap_map]
  exact List.filterMap_some

/-- A list in its order, sorted among other items, keeps its order and its items. -/
theorem filterMap_mergeSort {α β : Type} {order : α → α → Ordering} [Std.TransCmp order]
    {pick : α → Option β} {sorted items : List α}
    (inOrder : sorted.Pairwise fun a b => (order a b).isLE) (inside : sorted.Sublist items)
    (all : items.filterMap pick = sorted.filterMap pick) :
    (items.mergeSort fun a b => (order a b).isLE).filterMap pick = sorted.filterMap pick := by
  have kept := (List.sublist_mergeSort (fun _ _ _ => Std.TransCmp.isLE_trans) (isLE_total order)
    inOrder inside).filterMap pick
  have count := ((List.mergeSort_perm items fun a b => (order a b).isLE).filterMap pick).length_eq
  rw [all] at count
  exact (kept.eq_of_length count.symm).symm

/-- Every path of source files has one text. -/
def OneTextEach (sources : List SourceFile) : Prop :=
  ∀ file ∈ sources, ∀ other ∈ sources, file.path = other.path → file = other

theorem oneTextEach_read (tree : FileTree) (paths : List Path) :
    OneTextEach (Sources.read tree paths).readable := by
  have readAs : ∀ {file : SourceFile}, file ∈ (Sources.read tree paths).readable →
      (tree.readText file.path).toOption = some file.text := by
    intro file member
    obtain ⟨path, _, made⟩ := List.mem_filterMap.mp member
    obtain ⟨text, read, rfl⟩ := Option.map_eq_some_iff.mp made
    exact read
  intro file here other there same
  have text := readAs here
  rw [same, readAs there, Option.some.injEq] at text
  cases file
  cases other
  simp_all

theorem exists_file_of_mem_placeholderIssues {sources : List SourceFile} {issue : PlaceholderIssue}
    (member : issue ∈ placeholderIssues sources methods catalog) :
    ∃ file ∈ sources, issue ∈ file.placeholderIssues methods catalog :=
  List.mem_flatMap.mp (List.mem_mergeSort.mp member)

/-- Issues of one rule at one place are the same, whatever files they are found in. -/
theorem OneTextEach.placeholderIssue_eq {sources : List SourceFile} (one : OneTextEach sources)
    {issue other : PlaceholderIssue}
    (here : ∃ file ∈ sources, issue ∈ file.placeholderIssues methods catalog)
    (there : ∃ file ∈ sources, other ∈ file.placeholderIssues methods catalog)
    (place : issue.context.location = other.context.location) (kinds : issue.kind = other.kind) :
    issue = other := by
  obtain ⟨file, listed, found⟩ := here
  obtain ⟨file', listed', found'⟩ := there
  have paths : file.path = file'.path := by
    rw [← file_of_mem_placeholderIssues found, ← file_of_mem_placeholderIssues found', place]
  rw [← one file listed file' listed' paths] at found'
  exact MessageKeys.placeholderIssue_eq found found' place kinds

/-- The sorted placeholder issues are sorted by the order of all issues too. -/
theorem pairwise_placeholderIssues {sources : List SourceFile} (one : OneTextEach sources) :
    ((placeholderIssues sources methods catalog).map Issue.placeholder).Pairwise fun a b =>
      (a.order b).isLE := by
  rw [List.pairwise_map]
  refine (pairwise_mergeSort_order PlaceholderIssue.order _).imp_of_mem ?_
  intro issue other member also ordered
  rw [Issue.order_placeholder, Ordering.isLE_then_iff_and]
  refine ⟨ordered, ?_⟩
  cases compared : issue.order other with
  | lt => exact .inl rfl
  | gt => simp [compared] at ordered
  | eq =>
    -- A tie is between two copies of one issue.
    obtain ⟨place, kinds⟩ := PlaceholderIssue.order_eq_eq compared
    have same := one.placeholderIssue_eq (exists_file_of_mem_placeholderIssues member)
      (exists_file_of_mem_placeholderIssues also) place kinds
    rw [same, Std.ReflOrd.compare_self]
    exact .inr rfl

/-- The check for placeholders reports the placeholder issues of the project in their order. -/
theorem placeholders_of_check (project : Project) (tree : FileTree) :
    (project.check (project.sources tree) [.placeholder]).issues.filterMap Issue.placeholder? =
      project.placeholderIssues (project.sources tree) := by
  have reads : ∀ issues : List ReadIssue,
      (issues.map Issue.unreadable).filterMap Issue.placeholder? = [] := by
    intro issues
    rw [List.filterMap_eq_nil_iff]
    intro issue member
    obtain ⟨unreadable, _, rfl⟩ := List.mem_map.mp member
    rfl
  have input : (Project.requested [.placeholder]).flatMap
      (project.issuesOf (project.sources tree)) =
      (project.placeholderIssues (project.sources tree)).map Issue.placeholder := by
    simp [Project.requested, Project.issuesOf]
  have sorted : ((project.placeholderIssues (project.sources tree)).map
      Issue.placeholder).Pairwise fun a b => (a.order b).isLE :=
    pairwise_placeholderIssues (oneTextEach_read tree project.files)
  simp only [Project.check, CheckResult.ofIssues, input]
  rw [filterMap_mergeSort sorted (List.sublist_append_left _ _)]
  · exact filterMap_placeholders _
  · rw [List.filterMap_append, reads, List.append_nil]

end MessageKeys
