import Mathlib.Data.List.Nodup
import MessageKeys.Proofs.Call.Spans
import MessageKeys.Proofs.Command.Verbosity
import MessageKeys.Proofs.Issue.Placeholders

/-!
Placeholder issues are diagnostics with a place.

The issues of a file are found by a search of their own, which looks up each key, compares each call
with its template and locates what it finds. It finds the diagnostics of the file's text against the
catalog, in the same order, and all that an issue says besides can be told from the range of the
diagnostic (`placeholderIssues_eq_diagnostics`). The issues of several files are these issues,
sorted by place and rule.
-/
namespace MessageKeys

open Call

/-- The issue that a diagnostic of a file's text stands for: it is located at the beginning of the
diagnostic's range, its key is what the range cuts from the text, and its template is the value of
this key. -/
def PlaceholderIssue.ofRange? (file : SourceFile) (catalog : Catalog) (diagnostic : Diagnostic) :
    Option PlaceholderIssue := do
  let key ← Text.slice? file.text diagnostic.span.start diagnostic.span.stop
  let template ← catalog.template? key
  let index := LineIndex.ofText file.text
  let (line, column) := index.lineColumn diagnostic.span.start
  return {
    context := ⟨⟨file.path, line, column⟩, index.lineText line⟩
    key
    template
    kind := diagnostic.kind
    message := diagnostic.message }

variable {methods : List MethodName} {catalog : Catalog}

theorem ofRange?_of_mem {file : SourceFile} {site : Site} {entry : Entry} {diagnostic : Diagnostic}
    (found : site ∈ sites file.text methods) (defined : catalog.get? site.key = some entry)
    (broken : diagnostic ∈ Diagnostic.ofSite site entry.value) :
    PlaceholderIssue.ofRange? file catalog diagnostic =
      some (.ofDiagnostic (.ofText file.text) file.path site entry.value diagnostic) := by
  have key : Text.slice? file.text diagnostic.span.start diagnostic.span.stop = some site.key := by
    rw [Diagnostic.span_of_mem broken]
    exact (standsIn_of_mem_sites found).key
  have template : catalog.template? site.key = some entry.value := by
    rw [Catalog.template?, defined, Option.map_some]
  simp only [PlaceholderIssue.ofRange?, key, template, Option.bind_eq_bind, Option.bind_some]
  rfl

/-- The issues of a file are the diagnostics of its text. -/
theorem placeholderIssues_eq_diagnostics (file : SourceFile) (methods : List MethodName)
    (catalog : Catalog) :
    (file.placeholderIssues methods catalog).map some =
      (Diagnostic.validate file.text methods catalog.template?).map
        (PlaceholderIssue.ofRange? file catalog) := by
  rw [SourceFile.placeholderIssues, Diagnostic.validate, List.map_flatMap, List.map_flatMap]
  apply List.flatMap_congr
  intro site found
  cases defined : catalog.get? site.key with
  | none => simp [Catalog.template?, defined]
  | some entry =>
    simp only [Catalog.template?, defined, Option.map_some, Option.toList_some,
      List.flatMap_singleton, List.map_map]
    apply List.map_congr_left
    intro diagnostic broken
    exact (ofRange?_of_mem found defined broken).symm

/-! ## The issues of several files -/

/-- The issues at places of one file are the issues of this file. -/
theorem filter_placeholderIssues {sources : List SourceFile}
    (distinctPaths : (sources.map (·.path)).Nodup) {file : SourceFile} (listed : file ∈ sources) :
    ((placeholderIssues sources methods catalog).filter fun issue =>
      issue.context.location.file == file.path).Perm (file.placeholderIssues methods catalog) := by
  obtain ⟨front, back, rfl⟩ := List.append_of_mem listed
  rw [List.map_append, List.map_cons, List.nodup_middle, List.nodup_cons, List.mem_append,
    not_or] at distinctPaths
  have others : ∀ files : List SourceFile, file.path ∉ files.map (·.path) →
      (files.flatMap (·.placeholderIssues methods catalog)).filter (fun issue =>
        issue.context.location.file == file.path) = [] := by
    intro files absent
    rw [List.filter_eq_nil_iff]
    intro issue member same
    obtain ⟨other, inside, found⟩ := List.mem_flatMap.mp member
    rw [file_of_mem_placeholderIssues found, beq_iff_eq] at same
    exact absent (same ▸ List.mem_map_of_mem inside)
  have own : (file.placeholderIssues methods catalog).filter (fun issue =>
      issue.context.location.file == file.path) = file.placeholderIssues methods catalog := by
    rw [List.filter_eq_self]
    intro issue found
    rw [file_of_mem_placeholderIssues found, beq_self_eq_true]
  refine ((List.mergeSort_perm _ _).filter _).trans ?_
  rw [List.flatMap_append, List.flatMap_cons, List.filter_append, List.filter_append,
    others front distinctPaths.1.1, others back distinctPaths.1.2, own, List.nil_append,
    List.append_nil]

/-- Details are remarked and do not change what a check prints. -/
theorem output_of_runCheck (tree : FileTree) (checks : List Check) (options : CommonOptions)
    (verbose : Bool) :
    (Command.runCheck tree checks { options with verbose }).output =
      (Command.runCheck tree checks options).output :=
  (Command.sameButRemarks_run tree verbose (.check checks options)).output

/-- The placeholder issues at places of a file are the diagnostics of its text against the catalog,
no more and no fewer of each; there are no others; they are sorted by file, line, column and rule;
and what a check prints of them does not depend on whether details are asked for. -/
theorem placeholderIssues_refine_diagnostics (sources : List SourceFile)
    (methods : List MethodName) (catalog : Catalog)
    (distinctPaths : (sources.map (·.path)).Nodup) :
    (∀ file ∈ sources,
      (((placeholderIssues sources methods catalog).filter fun issue =>
        issue.context.location.file == file.path).map some).Perm
      ((Diagnostic.validate file.text methods catalog.template?).map
        (PlaceholderIssue.ofRange? file catalog))) ∧
    (∀ issue ∈ placeholderIssues sources methods catalog,
      issue.context.location.file ∈ sources.map (·.path)) ∧
    ((placeholderIssues sources methods catalog).Pairwise fun a b => (a.order b).isLE) ∧
    ∀ (tree : FileTree) (checks : List Check) (options : CommonOptions) (verbose : Bool),
      (Command.runCheck tree checks { options with verbose }).output =
        (Command.runCheck tree checks options).output := by
  refine ⟨?_, ?_, pairwise_mergeSort_order PlaceholderIssue.order _, output_of_runCheck⟩
  · intro file listed
    rw [← placeholderIssues_eq_diagnostics]
    exact (filter_placeholderIssues distinctPaths listed).map some
  · intro issue member
    obtain ⟨file, listed, found⟩ := exists_file_of_mem_placeholderIssues member
    rw [file_of_mem_placeholderIssues found]
    exact List.mem_map_of_mem listed

/-- Two files with calls of one key, which two methods find. -/
def callingFiles : List SourceFile :=
  [⟨"b.java".toList, "log(\"k\");".toList⟩, ⟨"a.java".toList, "é(log( \"k\" ), log(u".toList⟩]

theorem placeholderIssues_refine_diagnostics_overlapping :
    let methods := MethodName.ofTexts ["log".toList, "g".toList]
    let catalog := Catalog.empty.load "m.properties".toList "k=\x7b1\x7d".toList
    (callingFiles.map (·.path)).Nodup ∧ ∃ file ∈ callingFiles, file.path = "a.java".toList ∧
      (Diagnostic.validate file.text methods catalog.template?).map (·.kind) =
        [.numbering, .count, .numbering, .count] ∧
      (((placeholderIssues callingFiles methods catalog).filter fun issue =>
        issue.context.location.file == file.path).map some).Perm
      ((Diagnostic.validate file.text methods catalog.template?).map
        (PlaceholderIssue.ofRange? file catalog)) := by
  intro methods catalog
  have distinctPaths : (callingFiles.map (·.path)).Nodup := by decide
  obtain ⟨refined, _⟩ :=
    placeholderIssues_refine_diagnostics callingFiles methods catalog distinctPaths
  exact ⟨distinctPaths, ⟨"a.java".toList, "é(log( \"k\" ), log(u".toList⟩, by simp [callingFiles],
    rfl, by decide +kernel, refined _ (by simp [callingFiles])⟩

end MessageKeys
