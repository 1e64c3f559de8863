import MessageKeys.Agent.Answer
import MessageKeys.Command.Run
import MessageKeys.Proofs.FileTree.Frame
import MessageKeys.Proofs.Properties.Batch

/-!
What the addition of one key does when it is reported.

Both ways to add a key, the command and the agent's tool, come down to `Project.addKey`, and
`addKey_cases` says once what this can do. An addition that is reported has read the file, inserted
one line and written the result (`addKey_eq_added`). The line is written as it is, so that what was
read gains the announced definition exactly when key and template have no character in them that
means something to the reader of the file (`gainsOnly_iff_of_insert?`): another key can be reported
as added without being defined afterwards.

What was read is what the file held, unless the target did not exist: then it is taken for empty,
and the definitions of a file that it leads to afterwards are lost (`gainsDefinition_iff`).
-/
namespace MessageKeys

open Properties

namespace Project

/-- The addition of a key that is not blank: the file is read, the line is inserted, and the result
is saved. -/
theorem addKeyTo_eq (tree : FileTree) (target : Path) {key : Text} (filled : Text.trim key ≠ [])
    (value : Text) :
    addKeyTo tree target key value =
      match contentToEdit tree target with
      | .error error => (tree, .failed error)
      | .ok old =>
        match insert? old (Text.trim key) (Text.trim value) with
        | none => (tree, .definedIn target)
        | some new =>
          match save tree target new with
          | (left, some error) => (left, .failed error)
          | (left, none) => (left, .added target) := by
  have request : additions [⟨target, key, value⟩] =
      [⟨target, Text.trim key, Text.trim value⟩] := by
    simp [additions, Addition.trimmed?, filled]
  have one : edit tree [⟨target, key, value⟩] =
      editFile tree target [⟨target, Text.trim key, Text.trim value⟩] := by
    rw [← request]
    exact edit_of_one_file (by simp) (by simp [request])
  simp only [addKeyTo, one, editFile]
  cases contentToEdit tree target with
  | error error => rfl
  | ok old =>
    cases inserted : insert? old (Text.trim key) (Text.trim value) with
    | none => simp [insertAll, inserted]
    | some new =>
      cases saved : save tree target new with
      | mk left error? => cases error? <;> simp [insertAll, inserted, saved]

/-- What the addition of a key can do: it is not made and changes no file, or the line is inserted
into what was read from the target, and the target is saved. -/
theorem addKey_cases (project : Project) (tree : FileTree) (key value : Text)
    (file? : Option Path) :
    (∃ left addition, project.addKey tree key value file? = (left, addition) ∧
      (∀ file, addition ≠ .added file) ∧ tree.SameFiles left) ∨
    ∃ left target old new, project.addKey tree key value file? = (left, .added target) ∧
      (file? <|> project.defaultFile?) = some target ∧ contentToEdit tree target = .ok old ∧
      insert? old (Text.trim key) (Text.trim value) = some new ∧
      save tree target new = (left, none) := by
  have refused : ∀ addition : KeyAddition, (∀ file, addition ≠ .added file) →
      ∃ left other, (tree, addition) = (left, other) ∧ (∀ file, other ≠ .added file) ∧
        tree.SameFiles left :=
    fun addition other => ⟨tree, addition, rfl, other, fun _ => rfl⟩
  unfold addKey
  split
  · exact .inl (refused _ (by simp))
  next filled =>
    split
    · exact .inl (refused _ (by simp))
    · split
      · exact .inl (refused _ (by simp))
      next target chosen =>
        have still : Text.trim (Text.trim key) = Text.trim key := Text.isTrimmed_trim key
        rw [addKeyTo_eq tree target (by rw [still]; exact filled), still]
        cases opened : contentToEdit tree target with
        | error error => exact .inl (refused _ (by simp))
        | ok old =>
          cases inserted : insert? old (Text.trim key) (Text.trim value) with
          | none => simpa only [inserted] using .inl (refused _ (by simp))
          | some new =>
            simp only [inserted]
            rcases FileTree.save_cases tree target new with
              ⟨left, error, failed, same⟩ | ⟨left, _, _, saved, _⟩
            · rw [failed]
              exact .inl ⟨left, _, rfl, by simp, same⟩
            · rw [saved]
              exact .inr ⟨left, target, old, new, rfl, chosen, opened, inserted, saved⟩

/-- What has happened when a key was added to a project. -/
theorem addKey_eq_added {project : Project} {tree left : FileTree} {key value : Text}
    {file? : Option Path} {file : Path}
    (done : project.addKey tree key value file? = (left, .added file)) :
    ∃ old new, contentToEdit tree file = .ok old ∧
      insert? old (Text.trim key) (Text.trim value) = some new ∧
      save tree file new = (left, none) := by
  rcases addKey_cases project tree key value file? with
    ⟨_, _, ended, other, _⟩ | ⟨_, _, old, new, ended, _, opened, inserted, saved⟩
  · rw [done, Prod.mk.injEq] at ended
    exact absurd ended.2.symm (other file)
  · rw [done, Prod.mk.injEq, KeyAddition.added.injEq] at ended
    obtain ⟨rfl, rfl⟩ := ended
    exact ⟨old, new, opened, inserted, saved⟩

end Project

/-- What is reported when a key was added. -/
def additionReport (key file : Text) : Styled :=
  Report.success ("Added ".toList ++ Text.trim key ++ " to ".toList ++ file)

/-- One of the two ways to add a key reports that the key was added to a file, and what is left. -/
inductive ReportsAddition (tree : FileTree) (key value : Text) : FileTree → Path → Prop
  | command {file? : Option Path} {options : CommonOptions} {file : Path}
      (ends : (Command.run tree (.addKey key value file? options)).status = .ok .success)
      (prints : (Command.run tree (.addKey key value file? options)).output =
        additionReport key file) :
      ReportsAddition tree key value (Command.run tree (.addKey key value file? options)).tree file
  | agent {root : Path} {file? : Option Path} {file : Path}
      (answers : (Agent.Request.serve tree (.addMessageKey root key value file?)).answer =
        .ok (Agent.additionJson (Text.trim key) (some file) "Key added".toList)) :
      ReportsAddition tree key value
        (Agent.Request.serve tree (.addMessageKey root key value file?)).tree file

theorem additionReport_inj {key file other : Text}
    (same : additionReport key file = additionReport key other) : file = other := by
  simpa [additionReport, Report.success, Styled.line, Styled.plain, Styled.styled, Report.green]
    using same

/-- The file that an answer names. -/
theorem additionJson_inj {key message told : Text} {file? other? : Option Path}
    (same : Agent.additionJson key file? message = Agent.additionJson key other? told) :
    file? = other? := by
  cases file? <;> cases other? <;>
    simp_all [Agent.additionJson, Agent.record, Json.ofOption]

/-- A report comes from a project to which the key was added. -/
theorem ReportsAddition.added {tree left : FileTree} {key value : Text} {file : Path}
    (reported : ReportsAddition tree key value left file) :
    ∃ (project : Project) (file? : Option Path),
      project.addKey tree key value file? = (left, .added file) := by
  cases reported with
  | @command file? options _ ends prints =>
    simp only [Command.run, Command.runAddKey, onProject, Outcome.after] at ends prints ⊢
    cases opened : (Project.load tree options.choice).project with
    | error error =>
      rw [opened] at ends
      cases ends
    | ok project =>
      simp only [opened] at ends prints ⊢
      refine ⟨project, file?, ?_⟩
      rcases ended : project.addKey tree key value file? with ⟨after, addition⟩
      rw [ended] at ends prints
      cases addition with
      | added target => rw [@additionReport_inj key target file prints]; rfl
      | blankKey => cases ends
      | definedAt entry => cases ends
      | noTarget => cases ends
      | failed error => cases ends
      | definedIn target => cases ends
  | @agent root file? _ answers =>
    simp only [Agent.Request.serve, Agent.onProjectAt] at answers ⊢
    cases opened : (Project.load tree (.ofRoot root)).project with
    | error error =>
      rw [opened] at answers
      cases answers
    | ok project =>
      simp only [opened] at answers ⊢
      refine ⟨project, file?.map (Path.join root), ?_⟩
      rcases ended : project.addKey tree key value (file?.map (Path.join root)) with
        ⟨after, addition⟩
      rw [ended] at answers
      -- Only the answer to an added key names a file.
      cases addition with
      | added target => cases additionJson_inj (Except.ok.inj answers); rfl
      | failed error => cases answers
      | blankKey => cases additionJson_inj (Except.ok.inj answers)
      | definedAt entry => cases additionJson_inj (Except.ok.inj answers)
      | noTarget => cases additionJson_inj (Except.ok.inj answers)
      | definedIn target => cases additionJson_inj (Except.ok.inj answers)

/-- The key and template of an entry. -/
def Entry.definition (entry : Entry) : Text × Text := (entry.key, entry.value)

/-- The entries after a change are those before it, in their order, and one more. -/
def GainsOnly (before after : List Entry) (key value : Text) : Prop :=
  ∃ front back, before.map Entry.definition = front ++ back ∧
    after.map Entry.definition = front ++ (key, value) :: back

theorem GainsOnly.mem {before after : List Entry} {key value : Text}
    (gains : GainsOnly before after key value) : (key, value) ∈ after.map Entry.definition := by
  obtain ⟨front, back, _, gained⟩ := gains
  rw [gained]
  simp

theorem GainsOnly.length_eq {before after : List Entry} {key value : Text}
    (gains : GainsOnly before after key value) : after.length = before.length + 1 := by
  obtain ⟨front, back, shape, gained⟩ := gains
  have lengths := congrArg List.length shape
  have gainedLengths := congrArg List.length gained
  simp only [List.length_map, List.length_append, List.length_cons] at lengths gainedLengths
  omega

/-- The definitions of a file are its entries without their places. -/
theorem map_definition_parse (content : Text) (file : Path) :
    (parse content file).map Entry.definition = definitions content :=
  parse_definitions content file

/-! ## What is written -/

/-- The file at a route, which a path leads to, has gained the definition of the key and keeps those
that it had, in their order. -/
def GainsDefinition (tree left : FileTree) (route : Route) (file : Path) (key value : Text) :
    Prop :=
  ∃ old new, tree.textAt? route = some old ∧ left.contentAt? route = some (.text new) ∧
    GainsOnly (parse old file) (parse new file) (Text.trim key) (Text.trim value)

section Written

variable {tree left : FileTree} {target : Path} {route : Route} {old new key value : Text}

/-- What a file has gained stands in one of its lines. -/
theorem GainsOnly.isKey (gains : GainsOnly (parse old target) (parse new target) key value) :
    IsKey key ∧ '\n' ∉ value := by
  have inside := gains.mem
  rw [map_definition_parse] at inside
  obtain ⟨line, member, defined⟩ := List.mem_filterMap.mp inside
  obtain ⟨isKey, isTemplate⟩ := isKey_of_definition? (not_mem_of_mem_lines member) defined
  exact ⟨isKey, isTemplate.one_line⟩

/-- What is inserted is what the content gains exactly when key and template can stand in a line. -/
theorem gainsOnly_iff_of_insert? (target : Path)
    (inserted : insert? old (Text.trim key) (Text.trim value) = some new) :
    GainsOnly (parse old target) (parse new target) (Text.trim key) (Text.trim value) ↔
      IsKey (Text.trim key) ∧ '\n' ∉ Text.trim value := by
  constructor
  · exact GainsOnly.isKey
  · rintro ⟨isKey, single⟩
    unfold GainsOnly
    rw [map_definition_parse, map_definition_parse]
    have isTemplate : IsTemplate (Text.trim value) := ⟨Text.isTrimmed_trim value, single⟩
    have gained := definitions_insert? isKey isTemplate inserted
    exact ⟨_, _, List.takeWhile_append_dropWhile.symm, gained⟩

/-- A target that exists is the file that is read and written. -/
theorem textAt?_of_pathExists (there : tree.pathExists target = true)
    (opened : contentToEdit tree target = .ok old) (saved : save tree target new = (left, none))
    (resolved : left.resolve target = .ok route) : tree.textAt? route = some old := by
  rw [contentToEdit, if_pos there] at opened
  cases read : tree.readText target with
  | error cause => simp [read] at opened
  | ok text =>
    simp only [read, Except.ok.injEq] at opened
    rw [opened] at read
    obtain ⟨place, leads, found, inside, written⟩ := FileTree.save_of_readText read new
    rw [saved, Prod.mk.injEq] at written
    have kept := FileTree.keeps_put tree inside (.text new) (by simp [found])
    have again := kept.resolve leads
    rw [← written.1, resolved, Except.ok.injEq] at again
    rw [again, FileTree.textAt?, FileTree.contentAt?, found]

/-- A target that does not exist is taken for an empty file. -/
theorem eq_nil_of_not_pathExists (missing : ¬tree.pathExists target = true)
    (opened : contentToEdit tree target = .ok old) : old = [] := by
  rw [contentToEdit, if_neg missing, Except.ok.injEq] at opened
  exact opened.symm

/-- The file that was written has gained the definition exactly when key and template can stand in a
line, and the target existed or what it leads to defined nothing. -/
theorem gainsDefinition_iff (opened : contentToEdit tree target = .ok old)
    (inserted : insert? old (Text.trim key) (Text.trim value) = some new)
    (saved : save tree target new = (left, none)) (resolved : left.resolve target = .ok route)
    (held : left.contentAt? route = some (.text new)) :
    GainsDefinition tree left route target key value ↔
      (IsKey (Text.trim key) ∧ '\n' ∉ Text.trim value) ∧
        (tree.pathExists target = true ∨ (tree.textAt? route).map definitions = some []) := by
  have onRead := gainsOnly_iff_of_insert? target inserted
  by_cases there : tree.pathExists target = true
  · have before := textAt?_of_pathExists there opened saved resolved
    simp [GainsDefinition, before, held, onRead, there]
  · rw [eq_nil_of_not_pathExists there opened] at onRead
    have nothing : definitions [] = [] := rfl
    constructor
    · rintro ⟨text, other, before, holds, gains⟩
      rw [held, Option.some.injEq, Content.text.injEq] at holds
      rw [← holds] at gains
      -- The written file has one definition, so that the old one had none.
      have lengths := gains.length_eq.symm.trans (onRead.mpr gains.isKey).length_eq
      have blank : (parse [] target).length = 0 := rfl
      have empty : definitions text = [] := by
        rw [← map_definition_parse text target, ← List.length_eq_zero_iff, List.length_map]
        omega
      exact ⟨gains.isKey, .inr (by rw [before, Option.map_some, empty])⟩
    · rintro ⟨writable, known | defined⟩
      · exact absurd known there
      · obtain ⟨text, before, empty⟩ := Option.map_eq_some_iff.mp defined
        refine ⟨text, new, before, held, ?_⟩
        have gains := onRead.mpr writable
        unfold GainsOnly at gains ⊢
        rw [map_definition_parse] at gains ⊢
        rwa [empty, ← nothing]

end Written

/-- An addition that is reported has written one file. Its definitions are those before and the
announced one exactly when key and template can stand in a line, and the target existed or what it
leads to afterwards defined nothing. One of the two is so for every target that goes nowhere up, if
everything lies in directories. -/
theorem gainsDefinition_iff_of_reported {tree left : FileTree} {key value : Text} {file : Path}
    (reported : ReportsAddition tree key value left file) :
    ∃ route, left.resolve file = .ok route ∧
      (GainsDefinition tree left route file key value ↔
        (IsKey (Text.trim key) ∧ '\n' ∉ Text.trim value) ∧
          (tree.pathExists file = true ∨ (tree.textAt? route).map definitions = some [])) ∧
      (tree.WellFormed → upwards ∉ Path.pieces file →
        (GainsDefinition tree left route file key value ↔
          IsKey (Text.trim key) ∧ '\n' ∉ Text.trim value)) := by
  obtain ⟨project, file?, done⟩ := reported.added
  obtain ⟨old, new, opened, inserted, saved⟩ := Project.addKey_eq_added done
  obtain ⟨front, name, leads, held, _⟩ := FileTree.leads_of_save saved
  have resolved := leads.resolve (FileTree.at?_of_contentAt? held)
  have gains := gainsDefinition_iff opened inserted saved resolved held
  refine ⟨front ++ [name], resolved, gains, ?_⟩
  intro wellFormed plain
  rw [gains, and_iff_left]
  by_cases there : tree.pathExists file = true
  · exact .inl there
  · have nothing := FileTree.textAt?_of_leads wellFormed plain there leads
    exact .inr (by rw [nothing]; rfl)

/-- The command that adds a key to the file of the directory with one file. -/
def addToFile (key value : String) : Command :=
  .addKey key.toList value.toList (some "m.properties".toList) ⟨none, [], [], false⟩

/-- A key and its template between blanks. -/
theorem gainsDefinition_iff_of_reported_blanks :
    ReportsAddition (oneFile "x=1\n") " b ".toList " 2".toList (oneFile "b=2\nx=1\n")
        "m.properties".toList ∧
      (oneFile "x=1\n").WellFormed ∧
      ∃ route, (oneFile "b=2\nx=1\n").resolve "m.properties".toList = .ok route ∧
        GainsDefinition (oneFile "x=1\n") (oneFile "b=2\nx=1\n") route "m.properties".toList
          " b ".toList " 2".toList := by
  have left : (Command.run (oneFile "x=1\n") (addToFile " b " " 2")).tree =
      oneFile "b=2\nx=1\n" := by
    decide +kernel
  have reported : ReportsAddition (oneFile "x=1\n") " b ".toList " 2".toList
      (oneFile "b=2\nx=1\n") "m.properties".toList := by
    rw [← left]
    exact .command (FileTree.eq_ok_of_toOption (by decide +kernel)) (by decide +kernel)
  have wellFormed := wellFormed_oneFile "x=1\n"
  obtain ⟨route, resolved, _, plain⟩ := gainsDefinition_iff_of_reported reported
  exact ⟨reported, wellFormed, route, resolved,
    (plain wellFormed (by decide)).mpr ⟨by decide +kernel, by decide +kernel⟩⟩

/-- A key with an equals sign is reported as added, but the file defines another key. -/
theorem reported_without_gain :
    ReportsAddition (oneFile "x=1\n") "a=b".toList "v".toList (oneFile "a=b=v\nx=1\n")
        "m.properties".toList ∧
      (oneFile "a=b=v\nx=1\n").resolve "m.properties".toList = .ok ["m.properties".toList] ∧
      ¬GainsDefinition (oneFile "x=1\n") (oneFile "a=b=v\nx=1\n") ["m.properties".toList]
        "m.properties".toList "a=b".toList "v".toList := by
  have left : (Command.run (oneFile "x=1\n") (addToFile "a=b" "v")).tree =
      oneFile "a=b=v\nx=1\n" := by
    decide +kernel
  refine ⟨?_, FileTree.eq_ok_of_toOption (by decide +kernel), ?_⟩
  · rw [← left]
    exact .command (FileTree.eq_ok_of_toOption (by decide +kernel)) (by decide +kernel)
  · rintro ⟨old, new, before, held, gains⟩
    cases before
    cases held
    exact absurd gains.mem (by decide +kernel)

end MessageKeys
