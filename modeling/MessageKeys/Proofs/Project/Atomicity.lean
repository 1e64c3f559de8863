import MessageKeys.Proofs.Project.Addition

/-!
Adding one key is all or nothing.

Whatever stops the addition of a key, no file changes. An addition that succeeds changes the file
that the target leads to afterwards and no other. What it writes is an insertion into the file's old
text exactly when the target led to the file before, or when the file was empty or missing
(`gainsLine_iff`): a target that goes up again from a directory which has yet to be made is taken
for a missing file, and the file that it leads to in the end loses its lines. Where a target that
goes nowhere up did not exist, nothing stood (`FileTree.textAt?_of_leads`).
-/
namespace MessageKeys

open Properties

/-- The file at a route holds another content than before, which is an insertion into its old
text. -/
structure GainsLine (tree left : FileTree) (route : Route) (key value : Text) : Prop where
  inserted : ∃ old new, tree.textAt? route = some old ∧
    insert? old (Text.trim key) (Text.trim value) = some new ∧
    left.contentAt? route = some (.text new)
  differs : left.contentAt? route ≠ tree.contentAt? route

/-- What is left if the addition of a key to a target succeeded, and if it did not. -/
structure AllOrNothing (tree left : FileTree) (succeeded : Prop) (target? : Option Path)
    (key value : Text) : Prop where
  nothing : ¬succeeded → tree.SameFiles left
  all : succeeded → ∃ target route, target? = some target ∧ left.resolve target = .ok route ∧
    (∀ other, other ≠ route → left.contentAt? other = tree.contentAt? other) ∧
    (GainsLine tree left route key value ↔
      tree.pathExists target = true ∨ tree.textAt? route = some []) ∧
    (tree.WellFormed → upwards ∉ Path.pieces target → GainsLine tree left route key value)

/-! ## The file that is written -/

section Written

variable {tree left : FileTree} {target : Path} {route : Route} {old new key value : Text}

theorem gainsLine_of_textAt? (before : tree.textAt? route = some old)
    (inserted : insert? old (Text.trim key) (Text.trim value) = some new)
    (held : left.contentAt? route = some (.text new)) : GainsLine tree left route key value := by
  refine ⟨⟨old, new, before, inserted, held⟩, ?_⟩
  intro same
  have unchanged : tree.textAt? route = some new := by
    rw [FileTree.textAt?, ← same, held]
  rw [before, Option.some.injEq] at unchanged
  have more := count_lt_of_insert? inserted
  rw [unchanged] at more
  exact Nat.lt_irrefl _ more

/-- A target that does not exist becomes the new line alone. -/
theorem eq_newLine_of_not_pathExists (missing : ¬tree.pathExists target = true)
    (opened : contentToEdit tree target = .ok old)
    (inserted : insert? old (Text.trim key) (Text.trim value) = some new) :
    new = newLine (Text.trim key) (Text.trim value) ++ ['\n'] := by
  rw [eq_nil_of_not_pathExists missing opened, insert?, if_pos rfl, Option.some.injEq] at inserted
  exact inserted.symm

/-- The file that was written has gained a line exactly when the target existed, or the file was
empty or missing. -/
theorem gainsLine_iff (opened : contentToEdit tree target = .ok old)
    (inserted : insert? old (Text.trim key) (Text.trim value) = some new)
    (saved : save tree target new = (left, none)) (resolved : left.resolve target = .ok route)
    (held : left.contentAt? route = some (.text new)) :
    GainsLine tree left route key value ↔
      tree.pathExists target = true ∨ tree.textAt? route = some [] := by
  by_cases there : tree.pathExists target = true
  · have before := textAt?_of_pathExists there opened saved resolved
    exact iff_of_true (gainsLine_of_textAt? before inserted held) (.inl there)
  · have alone := eq_newLine_of_not_pathExists there opened inserted
    constructor
    · rintro ⟨⟨text, other, before, gained, holds⟩, _⟩
      rw [held, Option.some.injEq, Content.text.injEq] at holds
      rw [← holds, alone] at gained
      rw [eq_nil_of_insert? gained] at before
      exact .inr before
    · rintro (known | before)
      · exact absurd known there
      · rw [eq_nil_of_not_pathExists there opened] at inserted
        exact gainsLine_of_textAt? before inserted held

end Written

/-! ## The two ways to add a key -/

/-- What the addition of a key to a project leaves, if just additions that were made are reported
as successful. -/
theorem allOrNothing_addKey {project : Project} {tree left : FileTree} {key value : Text}
    {file? : Option Path} {addition : KeyAddition} {succeeded : Prop}
    (ended : project.addKey tree key value file? = (left, addition))
    (reports : succeeded ↔ ∃ file, addition = .added file) :
    AllOrNothing tree left succeeded (file? <|> project.defaultFile?) key value := by
  rcases Project.addKey_cases project tree key value file? with
    ⟨_, _, refused, other, same⟩ | ⟨_, target, old, new, added, chosen, opened, inserted, saved⟩
  · rw [ended, Prod.mk.injEq] at refused
    obtain ⟨rfl, rfl⟩ := refused
    refine ⟨fun _ => same, ?_⟩
    intro success
    obtain ⟨file, made⟩ := reports.mp success
    exact absurd made (other file)
  · rw [ended, Prod.mk.injEq] at added
    obtain ⟨rfl, rfl⟩ := added
    refine ⟨fun failure => absurd (reports.mpr ⟨target, rfl⟩) failure, ?_⟩
    intro _
    obtain ⟨front, name, leads, held, others⟩ := FileTree.leads_of_save saved
    have resolved := leads.resolve (FileTree.at?_of_contentAt? held)
    have gains := gainsLine_iff opened inserted saved resolved held
    refine ⟨target, front ++ [name], chosen, resolved, others, gains, ?_⟩
    intro wellFormed plain
    by_cases there : tree.pathExists target = true
    · exact gains.mpr (.inl there)
    · exact gains.mpr (.inr (FileTree.textAt?_of_leads wellFormed plain there leads))

/-- The file that a key is to go to: the one that was asked for, or else the first properties file
of the project. -/
def Opening.targetFor (opening : Opening) (file? : Option Path) : Option Path :=
  file? <|> opening.project.toOption.bind Project.defaultFile?

theorem Opening.targetFor_of_opened {opening : Opening} {project : Project}
    (opened : opening.project = .ok project) (file? : Option Path) :
    opening.targetFor file? = (file? <|> project.defaultFile?) := by
  rw [Opening.targetFor, opened]
  rfl

/-- Where nothing is done and no success is reported, it is nothing. -/
theorem allOrNothing_of_failure {tree : FileTree} {succeeded : Prop} (failed : ¬succeeded)
    (target? : Option Path) (key value : Text) :
    AllOrNothing tree tree succeeded target? key value :=
  ⟨fun _ _ => rfl, fun success => absurd success failed⟩

theorem allOrNothing_command (tree : FileTree) (key value : Text) (file? : Option Path)
    (options : CommonOptions) :
    let outcome := Command.run tree (.addKey key value file? options)
    AllOrNothing tree outcome.tree (outcome.status = .ok .success)
      ((Project.load tree options.choice).targetFor file?) key value := by
  simp only [Command.run, Command.runAddKey, onProject, Outcome.after]
  cases opened : (Project.load tree options.choice).project with
  | error error => exact allOrNothing_of_failure (by simp [Outcome.failed]) _ key value
  | ok project =>
    rw [Opening.targetFor_of_opened opened]
    rcases ended : project.addKey tree key value file? with ⟨left, addition⟩
    simp only [ended]
    cases addition with
    | added file => exact allOrNothing_addKey ended ⟨fun _ => ⟨file, rfl⟩, fun _ => rfl⟩
    | blankKey => exact allOrNothing_addKey ended (by simp [Outcome.refused])
    | definedAt entry => exact allOrNothing_addKey ended (by simp [Outcome.refused])
    | noTarget => exact allOrNothing_addKey ended (by simp [Outcome.failed])
    | failed error => exact allOrNothing_addKey ended (by simp [Outcome.failed])
    | definedIn file => exact allOrNothing_addKey ended (by simp [Outcome.refused])

/-- An agent is told that what it asked for was done. -/
def Agent.Response.TellsSuccess (response : Agent.Response) : Prop :=
  ∃ json, response.answer = .ok json ∧ json.field? "success" = some (.bool true)

theorem field?_additionJson (key : Text) (file? : Option Path) (message : Text) :
    (Agent.additionJson key file? message).field? "success" = some (.bool file?.isSome) := rfl

theorem allOrNothing_agent (tree : FileTree) (root : Path) (key value : Text)
    (file? : Option Path) :
    let response := Agent.Request.serve tree (.addMessageKey root key value file?)
    AllOrNothing tree response.tree response.TellsSuccess
      ((Project.load tree (.ofRoot root)).targetFor (file?.map (Path.join root))) key value := by
  simp only [Agent.Request.serve, Agent.onProjectAt]
  cases opened : (Project.load tree (.ofRoot root)).project with
  | error error => exact allOrNothing_of_failure (by simp [Agent.Response.TellsSuccess]) _ key value
  | ok project =>
    rw [Opening.targetFor_of_opened opened]
    rcases ended : project.addKey tree key value (file?.map (Path.join root)) with ⟨left, addition⟩
    simp only [ended]
    refine allOrNothing_addKey ended ?_
    cases addition <;>
      simp [Agent.Response.TellsSuccess, Agent.additionAnswer, field?_additionJson]

/-- The addition of a key, by the command and by an agent's request: if it does not succeed, no file
changes; if it does, the target is the one file that changes. It gains a line exactly when the
target led to it before or it was empty or missing; so it does for every target that goes nowhere
up. -/
theorem addKey_all_or_nothing (tree : FileTree) (key value : Text) (file? : Option Path) :
    (∀ options : CommonOptions,
      let outcome := Command.run tree (.addKey key value file? options)
      AllOrNothing tree outcome.tree (outcome.status = .ok .success)
        ((Project.load tree options.choice).targetFor file?) key value) ∧
    ∀ root : Path,
      let response := Agent.Request.serve tree (.addMessageKey root key value file?)
      AllOrNothing tree response.tree response.TellsSuccess
        ((Project.load tree (.ofRoot root)).targetFor (file?.map (Path.join root))) key value :=
  ⟨allOrNothing_command tree key value file?,
    fun root => allOrNothing_agent tree root key value file?⟩

/-- The command that adds a key to a file of the directory with one file. -/
def addToPath (path : String) : Command :=
  .addKey "k".toList "v".toList (some path.toList) ⟨none, [], [], false⟩

/-- A file in directories that have yet to be made. -/
theorem addKey_all_or_nothing_newDirectories :
    let outcome := (addToPath "a/b/n.properties").run (oneFile "x=1\n")
    outcome.status = .ok .success ∧ (oneFile "x=1\n").WellFormed ∧
      ∃ route, outcome.tree.resolve "a/b/n.properties".toList = .ok route ∧
        GainsLine (oneFile "x=1\n") outcome.tree route "k".toList "v".toList := by
  intro outcome
  have success : outcome.status = .ok .success := FileTree.eq_ok_of_toOption (by decide +kernel)
  have wellFormed := wellFormed_oneFile "x=1\n"
  obtain ⟨command, _⟩ := addKey_all_or_nothing (oneFile "x=1\n") "k".toList "v".toList
    (some "a/b/n.properties".toList)
  obtain ⟨target, route, chosen, resolved, _, _, plain⟩ := (command _).all success
  cases chosen
  exact ⟨success, wellFormed, route, resolved, plain wellFormed (by decide)⟩

/-- A target that goes up again from a directory that is made on the way: the old line is lost. -/
theorem addKey_loses_lines :
    let outcome := (addToPath "a/../m.properties").run (oneFile "x=1\n")
    outcome.status = .ok .success ∧
      outcome.tree.resolve "a/../m.properties".toList = .ok ["m.properties".toList] ∧
      outcome.tree.contentAt? ["m.properties".toList] = some (.text "k=v\n".toList) ∧
      ¬GainsLine (oneFile "x=1\n") outcome.tree ["m.properties".toList] "k".toList "v".toList := by
  intro outcome
  have held : outcome.tree.contentAt? ["m.properties".toList] =
      some (.text "k=v\n".toList) := by
    decide +kernel
  refine ⟨FileTree.eq_ok_of_toOption (by decide +kernel),
    FileTree.eq_ok_of_toOption (by decide +kernel), held, ?_⟩
  rintro ⟨⟨old, new, before, inserted, holds⟩, _⟩
  have lost : insert? "x=1\n".toList "k".toList "v".toList = some "k=v\nx=1\n".toList := by
    decide +kernel
  cases before
  rw [held] at holds
  cases holds
  exact absurd (lost.symm.trans inserted) (by decide)

end MessageKeys
