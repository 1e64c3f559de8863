import Mathlib.Data.List.Forall2
import MessageKeys.Agent.Answer
import MessageKeys.CommandLine.Basic
import MessageKeys.Proofs.Issue.Placeholders
import MessageKeys.Proofs.Source.Position

/-!
Reading a long answer page by page.

A page holds the next items of a list and says whether the list goes on behind it
(`page_append_rest`). An agent that asks for the next page from where the last one ended, with
whatever limits, up to the page that nothing follows, has got the whole list
(`items_of_pages`), and it can always get there (`exists_pages`). For placeholder issues this list
is the one that the check of the same project reports. An item tells all that is known of its issue
(`TellsIssue`), so that no other issues have the same items (`tellsIssues_iff`).
-/
namespace MessageKeys.Agent

/-! ## Pages of a list -/

/-- Behind a page comes the rest of the list. -/
theorem page_append_rest {α : Type} (items : List α) (offset limit : Nat) :
    (Page.cut items offset limit).items ++
      items.drop (offset + (Page.cut items offset limit).items.length) = items.drop offset := by
  simp only [Page.cut, List.length_take, ← List.drop_drop]
  by_cases fits : limit ≤ (items.drop offset).length
  · rw [Nat.min_eq_left fits, List.take_append_drop]
  · rw [Nat.min_eq_right (by omega), List.take_of_length_le (by omega), List.drop_length,
      List.append_nil]

/-- A page that nothing follows holds all the rest. -/
theorem page_of_not_hasMore {α : Type} {items : List α} {offset limit : Nat}
    (ended : (Page.cut items offset limit).hasMore = false) :
    (Page.cut items offset limit).items = items.drop offset := by
  have rest := page_append_rest items offset limit
  have past : items.length ≤ offset + (Page.cut items offset limit).items.length := by
    simpa [Page.cut] using ended
  rwa [List.drop_of_length_le past, List.append_nil] at rest

/-! ## Pages of an answer -/

/-- The items that an answer gives, and whether it says that more follow. -/
structure Tells (answer : Json) (items : List Json) (hasMore : Bool) : Prop where
  items : answer.field? "items" = some (.array items)
  hasMore : (answer.field? "pagination").bind (·.field? "hasMore") = some (.bool hasMore)

/-- The items of pages of placeholder issues that are asked for one after another, each from where
the one before it ended, up to one that nothing follows. -/
inductive IssuePages (tree : FileTree) (root : Path) : Nat → List Json → Prop
  | last {offset : Nat} {limit? : Option Nat} {answer : Json} {items : List Json}
      (served : (Request.serve tree (.checkPlaceholders root ⟨limit?, some offset⟩)).answer =
        .ok answer)
      (tells : Tells answer items false) : IssuePages tree root offset items
  | next {offset : Nat} {limit? : Option Nat} {answer : Json} {items rest : List Json}
      (served : (Request.serve tree (.checkPlaceholders root ⟨limit?, some offset⟩)).answer =
        .ok answer)
      (tells : Tells answer items true)
      (later : IssuePages tree root (offset + items.length) rest) :
      IssuePages tree root offset (items ++ rest)

theorem Tells.unique {answer : Json} {items other : List Json} {hasMore more : Bool}
    (first : Tells answer items hasMore) (second : Tells answer other more) :
    items = other ∧ hasMore = more := by
  have same := first.items.symm.trans second.items
  have goesOn := first.hasMore.symm.trans second.hasMore
  exact ⟨by simpa using same, by simpa using goesOn⟩

/-- A page of the placeholder issues of a project. -/
def issuePage (project : Project) (tree : FileTree) (limit? : Option Nat) (offset : Nat) :
    Page PlaceholderIssue :=
  .cut (project.placeholderIssues (project.sources tree)) offset
    (min (limit?.getD issuePages.usual) issuePages.greatest)

/-- What a page of placeholder issues tells. -/
theorem tells_issuesAnswer (project : Project) (tree : FileTree) (limit? : Option Nat)
    (offset : Nat) :
    Tells (issuesAnswer project tree ⟨limit?, some offset⟩)
      ((issuePage project tree limit? offset).items.map issueJson)
      (issuePage project tree limit? offset).hasMore :=
  ⟨rfl, rfl⟩

/-! ## What an item tells -/

/-- An item gives the place of an issue, its key and template, the broken rule, the message and the
source line. -/
structure TellsIssue (item : Json) (issue : PlaceholderIssue) : Prop where
  file : item.field? "filePath" = some (.string issue.context.location.file)
  line : item.field? "line" = some (.ofNat issue.context.location.line)
  column : item.field? "col" = some (.ofNat issue.context.location.column)
  key : item.field? "key" = some (.string issue.key)
  template : item.field? "template" = some (.string issue.template)
  rule : item.field? "rule" = some (.string (Rule.ofKind issue.kind).name)
  message : item.field? "message" = some (.string issue.message)
  sourceLine : item.field? "sourceLine" = some (.string issue.context.sourceLine)

theorem tellsIssue_issueJson (issue : PlaceholderIssue) : TellsIssue (issueJson issue) issue :=
  ⟨rfl, rfl, rfl, rfl, rfl, rfl, rfl, rfl⟩

/-- The two rules for placeholders have different names. -/
theorem ofKind_name_injective : Function.Injective fun kind => (Rule.ofKind kind).name := by
  intro a b same
  cases a <;> cases b <;> first | rfl | exact absurd same (by decide)

/-- An item tells of one issue only. -/
theorem TellsIssue.unique {item : Json} {issue other : PlaceholderIssue}
    (first : TellsIssue item issue) (second : TellsIssue item other) : issue = other := by
  have file := first.file.symm.trans second.file
  have line := first.line.symm.trans second.line
  have column := first.column.symm.trans second.column
  have key := first.key.symm.trans second.key
  have template := first.template.symm.trans second.template
  have rule := first.rule.symm.trans second.rule
  have message := first.message.symm.trans second.message
  have sourceLine := first.sourceLine.symm.trans second.sourceLine
  rcases issue with ⟨⟨⟨_, _, _⟩, _⟩, _, _, _, _⟩
  rcases other with ⟨⟨⟨_, _, _⟩, _⟩, _, _, _, _⟩
  simp only [Option.some.injEq, Json.string.injEq, Json.ofNat, Json.number.injEq,
    Text.ofNat_injective.eq_iff] at file line column key template rule message sourceLine
  have kind := ofKind_name_injective rule
  subst file line column key template kind message sourceLine
  rfl

/-- The items of a list of issues tell of these issues, in their order, and of no others. -/
theorem tellsIssues_iff (issues others : List PlaceholderIssue) :
    List.Forall₂ TellsIssue (issues.map issueJson) others ↔ others = issues := by
  rw [List.forall₂_map_left_iff]
  constructor
  · intro told
    induction told with
    | nil => rfl
    | cons first _ ih => rw [ih, (tellsIssue_issueJson _).unique first]
  · rintro rfl
    exact List.forall₂_same.mpr fun issue _ => tellsIssue_issueJson issue

section Served

variable {tree : FileTree} {root : Path} {project : Project}

theorem serve_checkPlaceholders (opened : (Project.load tree (.ofRoot root)).project = .ok project)
    (request : PageRequest) :
    (Request.serve tree (.checkPlaceholders root request)).answer =
      .ok (issuesAnswer project tree request) := by
  simp only [Request.serve, onProjectAt, opened]

/-- All pages together give the rest of the issues. -/
theorem items_of_pages (opened : (Project.load tree (.ofRoot root)).project = .ok project)
    {offset : Nat} {items : List Json} (pages : IssuePages tree root offset items) :
    items = ((project.placeholderIssues (project.sources tree)).drop offset).map issueJson := by
  induction pages with
  | @last offset limit? answer items served tells =>
    rw [serve_checkPlaceholders opened, Except.ok.injEq] at served
    rw [← served] at tells
    obtain ⟨rfl, ended⟩ := tells.unique (tells_issuesAnswer project tree limit? offset)
    rw [← page_of_not_hasMore ended.symm]
    rfl
  | @next offset limit? answer items rest served tells _ ih =>
    rw [serve_checkPlaceholders opened, Except.ok.injEq] at served
    rw [← served] at tells
    obtain ⟨rfl, _⟩ := tells.unique (tells_issuesAnswer project tree limit? offset)
    rw [ih, List.length_map, ← List.map_append]
    exact congrArg (List.map issueJson) (page_append_rest _ _ _)

/-- A page of the usual size that more items follow is not empty. -/
theorem issuePage_filled {offset : Nat}
    (more : (issuePage project tree none offset).hasMore = true) :
    0 < (issuePage project tree none offset).items.length ∧
      offset < (project.placeholderIssues (project.sources tree)).length := by
  simp only [issuePage, Page.cut, issuePages, List.length_take, List.length_drop,
    Option.getD_none, decide_eq_true_eq] at more ⊢
  omega

/-- There are pages to the end of the list from every place of it. -/
theorem exists_pages (opened : (Project.load tree (.ofRoot root)).project = .ok project)
    (offset : Nat) : ∃ items, IssuePages tree root offset items := by
  have served := serve_checkPlaceholders opened ⟨none, some offset⟩
  have tells := tells_issuesAnswer project tree none offset
  cases more : (issuePage project tree none offset).hasMore with
  | false =>
    rw [more] at tells
    exact ⟨_, .last served tells⟩
  | true =>
    rw [more] at tells
    have filled := issuePage_filled more
    obtain ⟨rest, later⟩ := exists_pages opened
      (offset + ((issuePage project tree none offset).items.map issueJson).length)
    exact ⟨_, .next served tells later⟩
termination_by (project.placeholderIssues (project.sources tree)).length - offset
decreasing_by
  rw [List.length_map]
  omega

end Served

/-- The pages that an agent reads hold the placeholder issues that the check of the same root
reports, with all they tell and in the same order. -/
theorem issuePages_iff_check (tree : FileTree) (root : Path) (verbose : Bool) (items : List Json) :
    IssuePages tree root 0 items ↔
      ∃ project, (Project.load tree (CommonOptions.choice ⟨some root, [], [], verbose⟩)).project =
          .ok project ∧
        let issues := (project.check (project.sources tree) [.placeholder]).issues.filterMap
          Issue.placeholder?
        items = issues.map issueJson ∧
          ∀ others, List.Forall₂ TellsIssue items others ↔ others = issues := by
  have chosen : CommonOptions.choice ⟨some root, [], [], verbose⟩ = .ofRoot root := rfl
  rw [chosen]
  constructor
  · intro pages
    cases opened : (Project.load tree (.ofRoot root)).project with
    | ok project =>
      have all := items_of_pages opened pages
      rw [List.drop_zero, ← placeholders_of_check] at all
      exact ⟨project, rfl, all, fun others => by rw [all, tellsIssues_iff]⟩
    | error error =>
      have refused : ∀ request,
          (Request.serve tree (.checkPlaceholders root request)).answer =
            .error (.project error) := by
        intro request
        simp only [Request.serve, onProjectAt, opened]
      cases pages with
      | last served _ =>
        rw [refused] at served
        cases served
      | next served _ _ =>
        rw [refused] at served
        cases served
  · rintro ⟨project, opened, rfl, _⟩
    obtain ⟨items, pages⟩ := exists_pages opened 0
    have all := items_of_pages opened pages
    rw [List.drop_zero, ← placeholders_of_check] at all
    rw [← all]
    exact pages

end MessageKeys.Agent
