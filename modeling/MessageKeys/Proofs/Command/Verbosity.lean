import MessageKeys.Command.Run
import MessageKeys.Proofs.CommandLine.Flag
import MessageKeys.Proofs.FileTree.Writing

/-!
What the flag that asks for details changes.

A command that asks for details opens the same project, writes the same files, prints the same and
ends in the same way; only its remarks are others (`sameButRemarks_run`). With what the flag does to
a command line, a line ends in the same way with the flag and without it
(`flag_changes_remarks_only`).
-/
namespace MessageKeys

/-! ## Outcomes -/

/-- Whether outcomes differ in no more than their remarks. -/
structure Outcome.SameButRemarks (outcome other : Outcome) : Prop where
  tree : outcome.tree = other.tree
  output : outcome.output = other.output
  status : outcome.status = other.status

theorem Outcome.SameButRemarks.refl (outcome : Outcome) : outcome.SameButRemarks outcome :=
  ⟨rfl, rfl, rfl⟩

theorem Outcome.SameButRemarks.after {outcome other : Outcome}
    (same : outcome.SameButRemarks other) (remarks remarks' : Styled) :
    (outcome.after remarks).SameButRemarks (other.after remarks') :=
  ⟨same.tree, same.output, same.status⟩

/-- Details do not change which project is opened. -/
theorem sameButRemarks_onProject (tree : FileTree) (options : CommonOptions) (verbose : Bool)
    {act act' : Project → Outcome}
    (alike : ∀ project, (act project).SameButRemarks (act' project)) :
    (onProject tree { options with verbose } act).SameButRemarks (onProject tree options act') := by
  have chosen : CommonOptions.choice { options with verbose } = options.choice := rfl
  simp only [onProject, chosen]
  refine .after ?_ _ _
  cases (Project.load tree options.choice).project with
  | error error => exact .refl _
  | ok project => exact alike project

namespace Command

/-- Unreadable files change how a command ends, and details only what it remarks on them. -/
theorem sameButRemarks_withUnreadable (count : Nat) (verbose verbose' : Bool) (outcome : Outcome) :
    (withUnreadable count verbose outcome).SameButRemarks
      (withUnreadable count verbose' outcome) := by
  unfold withUnreadable
  split
  · exact .refl outcome
  · exact ⟨rfl, rfl, rfl⟩

/-- A command with details or without them. -/
def withVerbose (verbose : Bool) : Command → Command
  | check checks options => .check checks { options with verbose }
  | lookUp sought options => .lookUp sought { options with verbose }
  | keys filter? options => .keys filter? { options with verbose }
  | addKey key value file? options => .addKey key value file? { options with verbose }
  | fix apply file? options => .fix apply file? { options with verbose }
  | init => .init
  | serve => .serve

theorem sameButRemarks_run (tree : FileTree) (verbose : Bool) (command : Command) :
    ((command.withVerbose verbose).run tree).SameButRemarks (command.run tree) := by
  cases command with
  | check checks options =>
    exact sameButRemarks_onProject tree options verbose fun _ => ⟨rfl, rfl, rfl⟩
  | lookUp sought options =>
    exact sameButRemarks_onProject tree options verbose fun _ => .refl _
  | keys filter? options =>
    exact sameButRemarks_onProject tree options verbose fun _ => .refl _
  | addKey key value file? options =>
    exact sameButRemarks_onProject tree options verbose fun _ => .refl _
  | fix apply file? options =>
    exact sameButRemarks_onProject tree options verbose fun _ =>
      (sameButRemarks_withUnreadable _ verbose options.verbose _).after _ _
  | init => exact .refl _
  | serve => exact .refl _

end Command

/-! ## Command lines -/

namespace CommandLine

/-- The names of the commands on a project. -/
def projectCommands : List CommandName := [.check, .lookUp, .keys, .addKey, .fix]

theorem takesFlag_grammar {name : CommandName} (onProject : name ∈ projectCommands) :
    TakesFlag name.grammar := by
  cases name with
  | init => simp [projectCommands] at onProject
  | serve => simp [projectCommands] at onProject
  | check => exact ⟨by decide, by decide⟩
  | lookUp => exact ⟨by decide, by decide⟩
  | keys => exact ⟨by decide, by decide⟩
  | addKey => exact ⟨by decide, by decide⟩
  | fix => exact ⟨by decide, by decide⟩

/-- Whether a command is another one that asks for details in addition. -/
structure Detailed (command detailed : Command) : Prop where
  quiet : command.isVerbose = false
  details : detailed.isVerbose = true
  same : detailed = command.withVerbose true

/-- A command on a project has the options that are given. -/
theorem isVerbose_of_command {given : Given} {name : CommandName} {command : Command}
    (onProject : name ∈ projectCommands) (made : given.command name = .ok command) :
    command.isVerbose = given.has .verbose := by
  unfold Given.command at made
  cases name with
  | init => simp [projectCommands] at onProject
  | serve => simp [projectCommands] at onProject
  | check =>
    cases made
    rfl
  | lookUp =>
    obtain ⟨sought, _, same⟩ := exists_of_bind_eq_ok made
    cases same
    rfl
  | keys =>
    cases made
    rfl
  | addKey =>
    cases key? : given.operands.head? with
    | none =>
      rw [key?] at made
      cases made
    | some key =>
      rw [key?] at made
      cases made
      rfl
  | fix =>
    cases made
    rfl

section Giving

variable {given flagged : Given} (alike : given.Flagged flagged)

include alike

theorem common_eq : flagged.common = { given.common with verbose := true } := by
  have root : OptionRule.sourceRoot ≠ .verbose := by decide
  have pattern : OptionRule.pattern ≠ .verbose := by decide
  have properties : OptionRule.properties ≠ .verbose := by decide
  simp only [Given.common, alike.flag, alike.value?_eq root, alike.values_eq pattern,
    alike.values_eq properties]

theorem sought_eq : flagged.sought = given.sought := by
  have place : OptionRule.place ≠ .verbose := by decide
  simp only [Given.sought, alike.operands, alike.value?_eq place]

theorem agree_withVerbose (name : CommandName) :
    Agree (fun command detailed => detailed = command.withVerbose true) (given.command name)
      (flagged.command name) := by
  have value : OptionRule.value ≠ .verbose := by decide
  have file : OptionRule.file ≠ .verbose := by decide
  have apply : OptionRule.apply ≠ .verbose := by decide
  cases name with
  | check =>
    simp only [Given.command, alike.operands, common_eq alike]
    exact .ok rfl
  | lookUp =>
    simp only [Given.command, sought_eq alike, common_eq alike]
    cases given.sought with
    | error error => exact .error error
    | ok sought => exact .ok rfl
  | keys =>
    simp only [Given.command, alike.operands, common_eq alike]
    exact .ok rfl
  | addKey =>
    simp only [Given.command, alike.operands, alike.value?_eq value, alike.value?_eq file,
      common_eq alike]
    cases given.operands.head? with
    | none => exact .error _
    | some key => exact .ok rfl
  | fix =>
    simp only [Given.command, alike.has_eq apply, alike.value?_eq file, common_eq alike]
    exact .ok rfl
  | init => exact .ok rfl
  | serve => exact .ok rfl

/-- The flag makes the command of a line one that asks for details. -/
theorem agree_command {name : CommandName} (onProject : name ∈ projectCommands) :
    Agree Detailed (given.command name) (flagged.command name) := by
  refine (agree_withVerbose alike name).imp ?_
  intro command detailed made madeFlagged same
  exact ⟨(isVerbose_of_command onProject made).trans alike.absent,
    (isVerbose_of_command onProject madeFlagged).trans alike.flag, same⟩

end Giving

theorem parse_command (name : CommandName) (words : List Text) :
    parse (name.text :: words) =
      readWords name.grammar words >>= fun given => given.command name >>= fun command =>
        pure (some command) := by
  have named : CommandName.ofText? name.text = some name := by cases name <;> decide
  rw [parse, named]

/-- Whether usage errors end a program in the same way: with the same answer, or both refused. -/
def EndsLike (error other : UsageError) : Prop :=
  error = other ∨ error.exitCode = 2 ∧ other.exitCode = 2

section Lines

variable {name : CommandName} {flag : Text} {before after : List Text}
  (onProject : name ∈ projectCommands) (isFlag : flag ∈ flagWords)
  (unflagged : isUnflagged (before ++ after) = true)

include onProject isFlag unflagged

/-- With the flag a line is refused as it is without it, or it asks for details. -/
theorem parse_flag (isOpen : isOpenAfter name.grammar before = true) :
    (∃ error other, parse (name.text :: (before ++ after)) = .error error ∧
      parse (name.text :: (before ++ flag :: after)) = .error other ∧ EndsLike error other) ∨
    ∃ command detailed, parse (name.text :: (before ++ after)) = .ok (some command) ∧
      parse (name.text :: (before ++ flag :: after)) = .ok (some detailed) ∧
      Detailed command detailed := by
  rw [parse_command, parse_command]
  rcases readWords_flag (takesFlag_grammar onProject) isFlag unflagged isOpen with agree | refused
  · have commands := agree.bind fun given flagged alike _ => agree_command alike onProject
    rw [← bind_assoc, ← bind_assoc]
    rcases commands.cases with ⟨error, read, readFlagged⟩ | ⟨command, detailed, read, others⟩
    · rw [read, readFlagged]
      exact .inl ⟨error, error, rfl, rfl, .inl rfl⟩
    · rw [read, others.1]
      exact .inr ⟨command, detailed, rfl, rfl, others.2⟩
  · obtain ⟨error, other, read, readFlagged, code, codeFlagged⟩ := refused
    rw [read, readFlagged]
    exact .inl ⟨error, other, rfl, rfl, .inr ⟨code, codeFlagged⟩⟩

/-- Where no option may stand, the word does not ask for details. -/
theorem isVerbose_of_closed (closed : isOpenAfter name.grammar before = false) {command : Command}
    (parsed : parse (name.text :: (before ++ flag :: after)) = .ok (some command)) :
    command.isVerbose = false := by
  rw [parse_command] at parsed
  obtain ⟨given, read, rest⟩ := exists_of_bind_eq_ok parsed
  obtain ⟨_, made, same⟩ := exists_of_bind_eq_ok rest
  cases same
  rw [isVerbose_of_command onProject made]
  exact has_of_closed (takesFlag_grammar onProject) isFlag unflagged closed read

end Lines

/-- A word that writes the flag stands anywhere on a line for a command on a project. If it stands
where an option may, the line ends in the same way with it and without it: either both lines are
refused, or they give the same command, which once asks for details, and it writes the same files,
prints the same and ends with the same status or error. If it stands elsewhere it is not the flag.
-/
theorem flag_changes_remarks_only (tree : FileTree) {name : CommandName} {flag : Text}
    {before after : List Text} (onProject : name ∈ projectCommands) (isFlag : flag ∈ flagWords)
    (unflagged : isUnflagged (before ++ after) = true) :
    (isOpenAfter name.grammar before = true →
      (∃ error other, parse (name.text :: (before ++ after)) = .error error ∧
        parse (name.text :: (before ++ flag :: after)) = .error other ∧ EndsLike error other) ∨
      ∃ command detailed, parse (name.text :: (before ++ after)) = .ok (some command) ∧
        parse (name.text :: (before ++ flag :: after)) = .ok (some detailed) ∧
        Detailed command detailed ∧ (detailed.run tree).SameButRemarks (command.run tree)) ∧
    (isOpenAfter name.grammar before = false → ∀ command,
      parse (name.text :: (before ++ flag :: after)) = .ok (some command) →
        command.isVerbose = false) := by
  constructor
  · intro isOpen
    rcases parse_flag onProject isFlag unflagged isOpen with refused | given
    · exact .inl refused
    · obtain ⟨command, detailed, read, readFlagged, same⟩ := given
      have runs := Command.sameButRemarks_run tree true command
      rw [← same.same] at runs
      exact .inr ⟨command, detailed, read, readFlagged, same, runs⟩
  · intro closed command parsed
    exact isVerbose_of_closed onProject isFlag unflagged closed parsed

/-- The flag between two checks; a word behind `--` is none. -/
theorem flag_changes_remarks_only_betweenChecks :
    let before := ["placeholder".toList]
    let after := ["undefined-key".toList, "--pattern".toList, "*".toList, "--".toList]
    let plain : CommonOptions := ⟨none, [['*']], [], false⟩
    let tree : FileTree := ⟨[(["A.java".toList], .file (.binary [255]))]⟩
    .check ∈ projectCommands ∧ "-v".toList ∈ flagWords ∧ isUnflagged (before ++ after) = true ∧
      isOpenAfter CommandName.check.grammar before = true ∧
      isOpenAfter CommandName.check.grammar (before ++ after) = false ∧
      ∃ detailed,
        parse (CommandName.check.text :: (before ++ "-v".toList :: after)) = .ok (some detailed) ∧
        detailed.isVerbose = true ∧
        (detailed.run tree).SameButRemarks
          ((Command.check [.placeholder, .undefinedKey] plain).run tree) := by
  intro before after plain tree
  have onProject : .check ∈ projectCommands := by decide
  have isFlag : "-v".toList ∈ flagWords := by decide
  have unflagged : isUnflagged (before ++ after) = true := by decide +kernel
  have isOpen : isOpenAfter CommandName.check.grammar before = true := by decide +kernel
  have parsed : parse (CommandName.check.text :: (before ++ after)) =
      .ok (some (.check [.placeholder, .undefinedKey] plain)) :=
    FileTree.eq_ok_of_toOption (by decide +kernel)
  refine ⟨onProject, isFlag, unflagged, isOpen, by decide +kernel, ?_⟩
  rcases (flag_changes_remarks_only tree onProject isFlag unflagged).1 isOpen with
    ⟨error, _, refused, _⟩ | ⟨command, detailed, read, readFlagged, same, runs⟩
  · rw [parsed] at refused
    cases refused
  · rw [parsed] at read
    cases read
    exact ⟨detailed, readFlagged, same.details, runs⟩

end CommandLine

end MessageKeys
