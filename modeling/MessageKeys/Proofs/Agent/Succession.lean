import Mathlib.Algebra.Ring.Nat
import Mathlib.Data.List.Forall2
import MessageKeys.Proofs.Agent.Paging

/-!
Reading a list by requests that follow on each other.

An agent that moves the offset on by the limit of each request need not look at the answers to know
where to go on (`FollowOn`). The pages it gets are the beginning of the list, as far as the limits
reach (`items_of_followOn`): each page is cut off where the next one begins, and behind the end of
the list there is nothing left to cut. Placeholder issues and messages are read in this way, and
every answer tells how long the whole list is (`pages_follow_on`).
-/
namespace MessageKeys.Agent

/-- How many items a request is given at most. -/
def PageSize.limitOf (size : PageSize) (request : PageRequest) : Nat :=
  min (request.limit?.getD size.usual) size.greatest

/-- How many items are passed over for a request. -/
def PageRequest.start (request : PageRequest) : Nat := request.offset?.getD 0

/-- The first request begins at an offset, and each later one where the limit of the one before it
ends. -/
def FollowOn (size : PageSize) : Nat → List PageRequest → Prop
  | _, [] => True
  | offset, request :: later =>
    request.start = offset ∧ FollowOn size (offset + size.limitOf request) later

instance (size : PageSize) (offset : Nat) (requests : List PageRequest) :
    Decidable (FollowOn size offset requests) :=
  match requests with
  | [] => isTrue trivial
  | request :: later =>
    have := instDecidableFollowOn size (offset + size.limitOf request) later
    inferInstanceAs (Decidable (_ ∧ _))

/-! ## Pages of any list -/

/-- Pages that give the beginning of a list to requests. -/
structure GivesFront {α : Type} (size : PageSize) (all : List α) (requests : List PageRequest)
    (pages : List (Page α)) : Prop where
  offsets : pages.map (·.offset) = requests.map (·.start)
  /-- As much of the list as the limits reach, each item once and in order. -/
  items : pages.flatMap (·.items) = all.take (min all.length (requests.map size.limitOf).sum)
  /-- A page is said to be the last one if nothing stands behind it. -/
  hasMore : ∀ page ∈ pages,
    page.hasMore = false ↔ all.drop (page.offset + page.items.length) = []

section List

variable {α β : Type} {size : PageSize}

theorem ofRequest_eq_cut (request : PageRequest) (all : List α) :
    Page.ofRequest size request all = .cut all request.start (size.limitOf request) := rfl

theorem hasMore_cut_eq_false_iff (all : List α) (offset limit : Nat) :
    (Page.cut all offset limit).hasMore = false ↔
      all.drop (offset + (Page.cut all offset limit).items.length) = [] := by
  rw [List.drop_eq_nil_iff]
  simp [Page.cut]

/-- Requests that follow on from an offset are given what stands behind it, as far as their limits
reach. -/
theorem items_of_followOn (all : List α) {offset : Nat} {requests : List PageRequest}
    (follow : FollowOn size offset requests) :
    (requests.map (Page.ofRequest size · all)).flatMap (·.items) =
      (all.drop offset).take (requests.map size.limitOf).sum := by
  induction requests generalizing offset with
  | nil => rfl
  | cons request later ih =>
    obtain ⟨begins, goesOn⟩ := follow
    have first : (Page.ofRequest size request all).items =
        (all.drop offset).take (size.limitOf request) := by
      rw [ofRequest_eq_cut, begins]
      rfl
    rw [List.map_cons, List.flatMap_cons, ih goesOn, first, List.map_cons, List.sum_cons,
      List.take_add, List.drop_drop]

theorem givesFront_of_followOn (all : List α) {requests : List PageRequest}
    (follow : FollowOn size 0 requests) :
    GivesFront size all requests (requests.map (Page.ofRequest size · all)) where
  offsets := by
    rw [List.map_map]
    rfl
  items := by
    rw [items_of_followOn all follow, List.drop_zero, List.take_eq_take_min, Nat.min_comm]
  hasMore := by
    intro page member
    obtain ⟨request, _, rfl⟩ := List.mem_map.mp member
    rw [ofRequest_eq_cut]
    exact hasMore_cut_eq_false_iff all _ _

/-- Items can be told in another form before or after a page of them is cut. -/
theorem ofRequest_map (tell : α → β) (request : PageRequest) (all : List α) :
    (Page.ofRequest size request (all.map tell)).items =
        (Page.ofRequest size request all).items.map tell ∧
      (Page.ofRequest size request (all.map tell)).hasMore =
        (Page.ofRequest size request all).hasMore := by
  simp [Page.ofRequest, Page.cut, List.map_take, List.map_drop]

end List

/-! ## Pages of an answer -/

/-- The answers to requests tell the length of a list and give its beginning. -/
def TellsFront (serve : PageRequest → Except ToolError Json) (size : PageSize) (all : List Json)
    (requests : List PageRequest) : Prop :=
  ∃ pages, GivesFront size all requests pages ∧
    List.Forall₂ (fun request page => ∃ answer, serve request = .ok answer ∧
      answer.field? "totalCount" = some (.ofNat all.length) ∧
      Tells answer page.items page.hasMore) requests pages

/-- A tool whose every answer tells the page of a request gives the beginning of its list. -/
theorem tellsFront_of_answers {α : Type} {serve : PageRequest → Except ToolError Json}
    {size : PageSize} {all : List α} {tell : α → Json} (answer : PageRequest → Json)
    (served : ∀ request, serve request = .ok (answer request))
    (total : ∀ request, (answer request).field? "totalCount" = some (.ofNat all.length))
    (tells : ∀ request, Tells (answer request) ((Page.ofRequest size request all).items.map tell)
      (Page.ofRequest size request all).hasMore)
    {requests : List PageRequest} (follow : FollowOn size 0 requests) :
    TellsFront serve size (all.map tell) requests := by
  refine ⟨_, givesFront_of_followOn (all.map tell) follow, ?_⟩
  rw [List.forall₂_map_right_iff, List.forall₂_same]
  intro request _
  refine ⟨answer request, served request, ?_, ?_⟩
  · rw [List.length_map]
    exact total request
  · obtain ⟨items, hasMore⟩ := @ofRequest_map _ _ size tell request all
    rw [items, hasMore]
    exact tells request

/-- Requests that follow on each other from the beginning of a list lose none of its items and
repeat none: their pages are the beginning of the list up to the sum of the limits, and only a page
with nothing behind it says that no more follow. This holds for pages of any list and for the two
tools that answer with pages, which tell the length of the whole list with every page. -/
theorem pages_follow_on (requests : List PageRequest) :
    (∀ {α : Type} (size : PageSize) (all : List α), FollowOn size 0 requests →
      GivesFront size all requests (requests.map (Page.ofRequest size · all))) ∧
    ∀ (tree : FileTree) (root : Path) (project : Project),
      (Project.load tree (.ofRoot root)).project = .ok project →
      (FollowOn issuePages 0 requests →
        TellsFront (fun request => (Request.serve tree (.checkPlaceholders root request)).answer)
          issuePages ((project.placeholderIssues (project.sources tree)).map issueJson)
          requests) ∧
      ∀ filter?, FollowOn messagePages 0 requests →
        TellsFront (fun request => (Request.serve tree (.searchKeys root filter? request)).answer)
          messagePages ((project.catalog.search (filter?.getD [])).map messageJson) requests := by
  refine ⟨fun _ all follow => givesFront_of_followOn all follow, ?_⟩
  intro tree root project opened
  constructor
  · exact tellsFront_of_answers (issuesAnswer project tree) (serve_checkPlaceholders opened)
      (fun _ => rfl) fun _ => ⟨rfl, rfl⟩
  · intro filter?
    refine tellsFront_of_answers (searchAnswer project filter?) (fun request => ?_)
      (fun _ => rfl) fun _ => ⟨rfl, rfl⟩
    simp only [Request.serve, onProjectAt, opened]

/-- Three messages. -/
def threeMessages : FileTree :=
  ⟨[([".msgkeyrc.json".toList],
      .file (.text "\x7b\"propertyFileGlobs\": [\"*.properties\"]\x7d".toList)),
    (["m.properties".toList], .file (.text "c=3\na=1\nb=2\n".toList))]⟩

/-- A limit, none at all, one that is too large, and one behind the end of the list. -/
theorem pages_follow_on_threeMessages :
    let requests : List PageRequest :=
      [⟨some 2, none⟩, ⟨some 0, some 2⟩, ⟨some 4294967295, some 2⟩, ⟨none, some 202⟩]
    FollowOn messagePages 0 requests ∧
      ∃ project, (Project.load threeMessages (.ofRoot ['.'])).project = .ok project ∧
        project.catalog.entries.map (·.key) = [['c'], ['a'], ['b']] ∧
        TellsFront
          (fun request => (Request.serve threeMessages (.searchKeys ['.'] none request)).answer)
          messagePages ((project.catalog.search []).map messageJson) requests := by
  intro requests
  have follow : FollowOn messagePages 0 requests := by decide
  let project : Project :=
    { config := { Config.default with propertyFileGlobs := ["*.properties".toList] }
      root := ['.']
      files := []
      catalog := Catalog.empty.load "m.properties".toList "c=3\na=1\nb=2\n".toList
      propertiesIssues := []
      methods := []
      references := ⟨Call.MethodName.ofTexts [Matcher.implicitMethod], []⟩ }
  have opened : (Project.load threeMessages (.ofRoot ['.'])).project = .ok project := by
    decide +kernel
  exact ⟨follow, project, opened, by decide +kernel,
    ((pages_follow_on requests).2 _ _ _ opened).2 none follow⟩

end MessageKeys.Agent
