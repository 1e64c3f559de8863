import Mathlib.Data.List.Dedup
import MessageKeys.Proofs.Project.Repetition

/-!
Which ranges of the source files are reported as undefined keys.

References come pattern by pattern, and several patterns may find one range. Since the text of a
range is its key (`issueAt_span`), it does not matter which of them is kept: every range of an
undefined key is reported exactly once (`perm_undefinedKeyIssues`). A key that is then defined takes
the issues of its own with it and no others. The rest keeps its order even where several ranges
begin at one place, since sorting leaves them as they were found.
-/
namespace MessageKeys

open Text

/-- The order in which undefined keys are listed: by place. -/
def UndefinedKeyIssue.order (a b : UndefinedKeyIssue) : Ordering :=
  a.context.location.order b.context.location

instance : Std.TransCmp UndefinedKeyIssue.order :=
  inferInstanceAs (Std.TransCmp
    (compareLex (compareOn fun issue : UndefinedKeyIssue => issue.context.location.file)
      (compareLex (compareOn fun issue => issue.context.location.line)
        (compareOn fun issue => issue.context.location.column))))

variable {references : Matcher} {catalog : Catalog} {file : SourceFile} {sources : List SourceFile}

/-! ## One issue for each range -/

/-- The ranges at which a file refers to keys that the catalog does not define, each once. -/
def SourceFile.undefinedRanges (file : SourceFile) (references : Matcher) (catalog : Catalog) :
    List Span :=
  (((references.references file.text).filter fun reference =>
    !catalog.contains reference.key).map Reference.span).dedup

/-- The issue of a range: its text is the key, and the issue lies where the range begins. -/
def SourceFile.issueAt (file : SourceFile) (range : Span) : UndefinedKeyIssue :=
  ⟨(LineIndex.ofText file.text).contextAt file.path range.start,
    (slice? file.text range.start range.stop).getD []⟩

/-- The issue of a range has the key of every reference that is found there. -/
theorem issueAt_span {reference : Reference}
    (member : reference ∈ references.references file.text) :
    file.issueAt reference.span =
      ⟨(LineIndex.ofText file.text).contextAt file.path reference.start, reference.key⟩ := by
  have cut := (stands_of_mem_references member).slice?
  simp only [SourceFile.issueAt, Reference.span, cut, Option.getD_some]

/-- Each range of a file is reported once. -/
theorem perm_fileUndefinedKeyIssues (file : SourceFile) (references : Matcher)
    (catalog : Catalog) :
    (file.undefinedKeyIssues references catalog).Perm
      ((file.undefinedRanges references catalog).map file.issueAt) := by
  unfold SourceFile.undefinedKeyIssues SourceFile.undefinedRanges
  generalize selected : ((references.references file.text).filter fun reference =>
    !catalog.contains reference.key) = undefined
  have ranges : ((distinctBy Reference.span [] undefined).map Reference.span).Perm
      (undefined.map Reference.span).dedup := by
    refine (List.perm_ext_iff_of_nodup (nodup_distinctBy _ _ _).1 (List.nodup_dedup _)).mpr ?_
    intro range
    rw [mem_map_distinctBy, List.mem_dedup]
  have issues : (distinctBy Reference.span [] undefined).map (fun reference =>
      (⟨(LineIndex.ofText file.text).contextAt file.path reference.span.start, reference.key⟩ :
        UndefinedKeyIssue)) =
      ((distinctBy Reference.span [] undefined).map Reference.span).map file.issueAt := by
    rw [List.map_map]
    apply List.map_congr_left
    intro reference kept
    have found : reference ∈ undefined := (distinctBy_sublist _ _ _).subset kept
    rw [← selected] at found
    exact (issueAt_span (List.mem_filter.mp found).1).symm
  dsimp only
  rw [issues]
  exact ranges.map file.issueAt

/-- Each range of all files is reported once, and nothing else is. -/
theorem perm_undefinedKeyIssues (sources : List SourceFile) (references : Matcher)
    (catalog : Catalog) :
    (undefinedKeyIssues sources references catalog).Perm
      (sources.flatMap fun file => (file.undefinedRanges references catalog).map file.issueAt) :=
  (List.mergeSort_perm _ _).trans
    (List.Perm.flatMap_left _ fun file _ => perm_fileUndefinedKeyIssues file references catalog)

/-- No two ranges are reported in the same way. -/
theorem nodup_undefinedKeyIssues (distinctPaths : (sources.map (·.path)).Nodup) :
    (undefinedKeyIssues sources references catalog).Nodup := by
  have apart : (undefinedKeyIssues sources references catalog).Pairwise fun issue other =>
      ¬ issue.SameProblem other := by
    refine (pairwise_sorted_iff distinctPaths UndefinedKeyIssue.SameProblem.symm ?_ _).mpr ?_
    · intro file file' issue other here there same
      rw [← (context_of_mem_undefinedKeyIssues here).1,
        ← (context_of_mem_undefinedKeyIssues there).1, same.1]
    · exact fun file _ => pairwise_fileUndefinedKeyIssues references
  refine apart.imp ?_
  rintro issue _ different rfl
  exact different ⟨rfl, rfl⟩

/-! ## One more definition -/

theorem contains_insert (catalog : Catalog) (entry : Entry) (key : Text) :
    (catalog.insert entry).contains key = (catalog.contains key || key == entry.key) := by
  rw [Catalog.contains, Catalog.get?_insert, Option.isSome_or, ← Catalog.contains]
  congr 1
  by_cases same : entry.key = key
  · simp [same]
  · simp [same, Ne.symm same]

/-- Of the references to undefined keys, those to a key that is then defined go. -/
theorem undefined_insert (found : List Reference) (catalog : Catalog) (entry : Entry) :
    (found.filter fun reference => !(catalog.insert entry).contains reference.key) =
      (found.filter fun reference => !catalog.contains reference.key).filter fun reference =>
        reference.key != entry.key := by
  rw [List.filter_filter]
  apply List.filter_congr
  intro reference _
  rw [contains_insert, Bool.not_or, Bool.and_comm]
  rfl

/-- A definition takes the issues of its key from a file and leaves the others in their order. -/
theorem fileUndefinedKeyIssues_insert (file : SourceFile) (references : Matcher)
    (catalog : Catalog) (entry : Entry) :
    file.undefinedKeyIssues references (catalog.insert entry) =
      (file.undefinedKeyIssues references catalog).filter fun issue =>
        issue.key != entry.key := by
  unfold SourceFile.undefinedKeyIssues
  dsimp only
  rw [undefined_insert, List.filter_map, distinctBy_filter]
  · rfl
  · intro reference here other there same
    rw [key_eq_of_span (List.mem_filter.mp here).1 (List.mem_filter.mp there).1 same]
  · intro reference _ _
    rfl

/-- Issues of one file are found in the same order, in whatever order the files are read. -/
theorem filter_flatMap_of_perm {β : Type} {others : List SourceFile}
    (perm : sources.Perm others) (distinctPaths : (sources.map (·.path)).Nodup)
    {find : SourceFile → List β} {keep : β → Bool} (path : Path)
    (inFile : ∀ file, ∀ found ∈ find file, keep found = true → file.path = path) :
    (sources.flatMap find).filter keep = (others.flatMap find).filter keep := by
  have elsewhere : ∀ {file : SourceFile}, file.path ≠ path → (find file).filter keep = [] := by
    intro file other
    rw [List.filter_eq_nil_iff]
    exact fun found member kept => other (inFile file found member kept)
  induction perm with
  | nil => rfl
  | cons file _ ih =>
    rw [List.map_cons, List.nodup_cons] at distinctPaths
    rw [List.flatMap_cons, List.flatMap_cons, List.filter_append, List.filter_append,
      ih distinctPaths.2]
  | swap file other rest =>
    simp only [List.flatMap_cons, List.filter_append, ← List.append_assoc]
    congr 1
    by_cases here : other.path = path
    · have there : file.path ≠ path := by
        intro same
        simp [same, here] at distinctPaths
      rw [elsewhere there, List.append_nil, List.nil_append]
    · rw [elsewhere here, List.nil_append, List.append_nil]
  | trans first _ ih ih' =>
    rw [ih distinctPaths, ih' ((first.map _).nodup_iff.mp distinctPaths)]

/-- The order in which files are read does not show. -/
theorem undefinedKeyIssues_of_perm {others : List SourceFile} (perm : sources.Perm others)
    (distinctPaths : (sources.map (·.path)).Nodup) (references : Matcher) (catalog : Catalog) :
    undefinedKeyIssues sources references catalog =
      undefinedKeyIssues others references catalog := by
  unfold undefinedKeyIssues
  apply @eq_of_ties _ UndefinedKeyIssue.order _ _ _ (pairwise_mergeSort_order _ _)
    (pairwise_mergeSort_order _ _)
  intro issue
  have sorted := @ties_mergeSort _ UndefinedKeyIssue.order _ issue
  refine (sorted _).trans (Eq.trans ?_ (sorted _).symm)
  refine filter_flatMap_of_perm perm distinctPaths issue.context.location.file ?_
  intro file found member tied
  rw [← (context_of_mem_undefinedKeyIssues member).1]
  simp only [UndefinedKeyIssue.order, Location.order, beq_iff_eq, Ordering.then_eq_eq,
    Std.LawfulEqOrd.compare_eq_iff_eq] at tied
  exact tied.1.symm

theorem undefinedKeyIssues_insert (sources : List SourceFile) (references : Matcher)
    (catalog : Catalog) (entry : Entry) :
    undefinedKeyIssues sources references (catalog.insert entry) =
      (undefinedKeyIssues sources references catalog).filter fun issue =>
        issue.key != entry.key := by
  have files : sources.flatMap (·.undefinedKeyIssues references (catalog.insert entry)) =
      (sources.flatMap (·.undefinedKeyIssues references catalog)).filter fun issue =>
        issue.key != entry.key := by
    simp only [List.filter_flatMap, fileUndefinedKeyIssues_insert]
  unfold undefinedKeyIssues
  rw [files]
  exact @mergeSort_filter _ UndefinedKeyIssue.order _ _ _

/-- For files with different paths, in whatever order they are read, every range of an undefined key
is reported exactly once, with the key that is found there and the place where it begins, and
nothing else is reported; the issues are sorted by place; and a definition that is added takes the
issues of its key and leaves the others in their order. -/
theorem undefined_ranges_reported {sources others : List SourceFile}
    (distinctPaths : (sources.map (·.path)).Nodup) (perm : sources.Perm others)
    (references : Matcher) (catalog : Catalog) :
    let issues := undefinedKeyIssues sources references catalog
    issues.Perm (sources.flatMap fun file =>
      (file.undefinedRanges references catalog).map file.issueAt) ∧
    (∀ file : SourceFile, ∀ reference ∈ references.references file.text,
      file.issueAt reference.span =
        ⟨(LineIndex.ofText file.text).contextAt file.path reference.start, reference.key⟩) ∧
    issues.Nodup ∧
    (issues.Pairwise fun issue other =>
      (issue.context.location.order other.context.location).isLE) ∧
    undefinedKeyIssues others references catalog = issues ∧
    ∀ entry, undefinedKeyIssues others references (catalog.insert entry) =
      issues.filter fun issue => issue.key != entry.key := by
  intro issues
  refine ⟨perm_undefinedKeyIssues sources references catalog, fun _ _ => issueAt_span,
    nodup_undefinedKeyIssues distinctPaths, pairwise_mergeSort_order UndefinedKeyIssue.order _,
    (undefinedKeyIssues_of_perm perm distinctPaths references catalog).symm, ?_⟩
  intro entry
  rw [← undefinedKeyIssues_of_perm perm distinctPaths references (catalog.insert entry)]
  exact undefinedKeyIssues_insert sources references catalog entry

/-- Two files, one of which refers to a key twice and to a key of the other one. -/
def repeatingFiles : List SourceFile :=
  [⟨"B.java".toList, "log(\"z\");".toList⟩,
    ⟨"A.java".toList, "log(\" ab \"); blog('z');\nlog(\"ab\");".toList⟩]

/-- Two methods that find the same calls. -/
def overlappingMatcher : Matcher := ⟨Call.MethodName.ofTexts ["log".toList, "og".toList], []⟩

/-- Every range is reported once although both methods find it, and when `ab` is defined, the issues
of `z` stay as they were, in whatever order the files are read. -/
theorem undefined_ranges_reported_overlapping :
    (repeatingFiles.map (·.path)).Nodup ∧
      repeatingFiles.map (·.undefinedRanges overlappingMatcher .empty) =
        [[⟨5, 6⟩], [⟨6, 8⟩, ⟨19, 20⟩, ⟨29, 31⟩]] ∧
      (undefinedKeyIssues repeatingFiles overlappingMatcher .empty).Perm
        (repeatingFiles.flatMap fun file =>
          (file.undefinedRanges overlappingMatcher .empty).map file.issueAt) ∧
      undefinedKeyIssues repeatingFiles.reverse overlappingMatcher
          (Catalog.empty.insert ⟨"ab".toList, [], "m.properties".toList, 1⟩) =
        (undefinedKeyIssues repeatingFiles overlappingMatcher .empty).filter fun issue =>
          issue.key != "ab".toList := by
  have distinctPaths : (repeatingFiles.map (·.path)).Nodup := by decide
  obtain ⟨perm, _, _, _, _, added⟩ := undefined_ranges_reported distinctPaths
    (List.reverse_perm _).symm overlappingMatcher .empty
  exact ⟨distinctPaths, by decide +kernel, perm, added _⟩

end MessageKeys
