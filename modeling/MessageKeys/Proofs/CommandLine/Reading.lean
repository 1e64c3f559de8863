import MessageKeys.CommandLine.Parser
import Mathlib.Data.List.Basic

/-!
Reading a command line word by word.

Every word is taken by `Progress.take`, and at the end what is pending is settled (`finish_append`,
`readWords_eq`). An option or an operand that has to be refused is refused at the latest when it is
settled: no word that follows can save the line (`Spoiled.finish`).
-/
namespace MessageKeys.CommandLine

theorem exists_of_bind_eq_ok {α β : Type} {x : Except UsageError α} {f : α → Except UsageError β}
    {result : β} (made : (x >>= f) = .ok result) : ∃ a, x = .ok a ∧ f a = .ok result := by
  cases x with
  | error error => cases made
  | ok a => exact ⟨a, rfl, made⟩

/-! ## What is given -/

namespace Given

theorem has_eq_any (given : Given) (rule : OptionRule) :
    given.has rule = given.options.any (·.1 == rule) := by
  rw [Bool.eq_iff_iff]
  simp [has, value?, values]

/-- An option is refused or stands behind the others. -/
theorem addOption_cases (given : Given) (rule : OptionRule) (value : Text) :
    (∃ error, given.addOption rule value = .error error ∧ error.exitCode = 2) ∨
      given.addOption rule value =
        .ok { given with options := given.options ++ [(rule, value)] } := by
  unfold addOption
  split
  · exact .inl ⟨_, rfl, rfl⟩
  · split
    · exact .inl ⟨_, rfl, rfl⟩
    · exact .inr rfl

theorem operands_of_addOption {given next : Given} {rule : OptionRule} {value : Text}
    (added : given.addOption rule value = .ok next) : next.operands = given.operands := by
  rcases given.addOption_cases rule value with ⟨error, refuses, _⟩ | accepts
  · rw [refuses] at added
    cases added
  · rw [accepts] at added
    cases added
    rfl

/-- Whether operands have to be refused. -/
def areRefused (kind : OperandKind) (texts : List Text) : Bool :=
  kind == .checks && texts.any fun text => (Check.ofName? text).isNone

theorem areRefused_append (kind : OperandKind) (early late : List Text) :
    areRefused kind (early ++ late) = (areRefused kind early || areRefused kind late) := by
  rw [areRefused, List.any_append, Bool.and_or_distrib_left]
  rfl

theorem addOperands_eq (given : Given) (kind : OperandKind) (texts : List Text) :
    given.addOperands kind texts =
      if areRefused kind texts then .error .invalidValue
      else .ok { given with operands := given.operands ++ texts } := by
  simp only [addOperands, areRefused, Bool.and_eq_true, beq_iff_eq]

theorem addOperands_eq_ok {given whole : Given} {kind : OperandKind} {texts : List Text}
    (settles : given.addOperands kind texts = .ok whole) :
    areRefused kind texts = false ∧ whole = { given with operands := given.operands ++ texts } := by
  rw [addOperands_eq] at settles
  split at settles
  · cases settles
  · next accepted =>
    cases settles
    exact ⟨by simpa using accepted, rfl⟩

theorem addOperands_eq_error {given : Given} {kind : OperandKind} {texts : List Text}
    {error : UsageError} (refused : given.addOperands kind texts = .error error) :
    areRefused kind texts = true ∧ error = .invalidValue := by
  rw [addOperands_eq] at refused
  split at refused
  · next wrong =>
    cases refused
    exact ⟨wrong, rfl⟩
  · cases refused

/-- Operands are taken together or one part after the other. -/
theorem addOperands_append {given whole : Given} {kind : OperandKind} {early : List Text}
    (settles : given.addOperands kind early = .ok whole) (late : List Text) :
    given.addOperands kind (early ++ late) = whole.addOperands kind late := by
  obtain ⟨accepted, rfl⟩ := addOperands_eq_ok settles
  simp only [addOperands_eq, areRefused_append, accepted, Bool.false_or, List.append_assoc]

end Given

/-! ## What is pending -/

section Pending

variable {grammar : Grammar} {progress : Progress}

theorem exitCode_of_settle {error : UsageError} (refused : progress.settle grammar = .error error) :
    error.exitCode = 2 := by
  obtain ⟨given, pending, _⟩ := progress
  cases pending with
  | nothing => cases refused
  | option rule value? =>
    cases value? with
    | none =>
      cases refused
      rfl
    | some value =>
      have added : given.addOption rule value = .error error := refused
      rcases given.addOption_cases rule value with ⟨other, refuses, code⟩ | accepts
      · rw [refuses] at added
        cases added
        exact code
      · rw [accepts] at added
        cases added
  | operands texts =>
    rw [(Given.addOperands_eq_error refused).2]
    rfl

/-- Whether the next word may be an option: options have not ended, and none waits for its value. -/
def Progress.isOpen (progress : Progress) : Bool :=
  !progress.onlyOperands &&
    match progress.pending with
    | .option _ none => false
    | _ => true

theorem exists_waiting (closed : progress.isOpen = false)
    (options : progress.onlyOperands = false) : ∃ rule, progress.pending = .option rule none := by
  rw [Progress.isOpen, options, Bool.not_false, Bool.true_and] at closed
  split at closed
  · next rule waiting => exact ⟨rule, waiting⟩
  · cases closed

theorem given_of_settle {given : Given} (settles : progress.settle grammar = .ok given)
    (rule : OptionRule) : progress.pending ≠ .option rule none := by
  intro waiting
  rw [Progress.settle, waiting] at settles
  cases settles

/-- Where no option waits for its value, a plain word is an operand. -/
theorem takePlain_eq (given : ∀ rule, progress.pending ≠ .option rule none) (text : Text) :
    progress.takePlain grammar text = progress.takeOperand grammar text := by
  unfold Progress.takePlain
  split
  · next rule waiting => exact absurd waiting (given rule)
  · rfl

theorem onlyOperands_of_takeOperand {next : Progress} {text : Text}
    (taken : progress.takeOperand grammar text = .ok next) :
    next.onlyOperands = progress.onlyOperands := by
  unfold Progress.takeOperand at taken
  split at taken
  · cases taken
  · cases taken
    rfl
  · split at taken
    · cases taken
    · obtain ⟨given, _, made⟩ := exists_of_bind_eq_ok taken
      cases made
      rfl

end Pending

/-! ## Whole lines -/

/-- Takes words one after another. -/
def Progress.takeAll (progress : Progress) (grammar : Grammar) (words : List Text) :
    Except UsageError Progress :=
  words.foldlM (fun progress word => progress.take grammar word) progress

theorem takeAll_cons (progress : Progress) (grammar : Grammar) (word : Text) (words : List Text) :
    progress.takeAll grammar (word :: words) =
      progress.take grammar word >>= fun next => next.takeAll grammar words :=
  List.foldlM_cons

/-- Reads the words that follow. -/
def Progress.finish (progress : Progress) (grammar : Grammar) (words : List Text) :
    Except UsageError Given :=
  progress.takeAll grammar words >>= fun next => next.settle grammar

theorem finish_cons (progress : Progress) (grammar : Grammar) (word : Text) (words : List Text) :
    progress.finish grammar (word :: words) =
      progress.take grammar word >>= fun next => next.finish grammar words := by
  rw [Progress.finish, takeAll_cons, bind_assoc]
  rfl

theorem finish_append (progress : Progress) (grammar : Grammar) (words more : List Text) :
    progress.finish grammar (words ++ more) =
      progress.takeAll grammar words >>= fun next => next.finish grammar more := by
  rw [Progress.finish, Progress.takeAll, List.foldlM_append, bind_assoc]
  rfl

theorem readWords_eq (grammar : Grammar) (words : List Text) :
    readWords grammar words = Progress.start.finish grammar words := rfl

/-! ## What is refused -/

/-- Whether what is pending has to be refused, whatever follows. -/
structure Spoiled (grammar : Grammar) (progress : Progress) : Prop where
  refused : ∃ error, progress.settle grammar = .error error
  given : ∀ rule, progress.pending ≠ .option rule none

section Refusing

variable {grammar : Grammar} {progress : Progress}

/-- A refusal, or a result that will be refused. -/
def Refused {α : Type} (later : α → Prop) (result : Except UsageError α) : Prop :=
  (∃ error, result = .error error ∧ error.exitCode = 2) ∨ ∃ value, result = .ok value ∧ later value

theorem Spoiled.bind_settle {α : Type} {later : α → Prop} (spoiled : Spoiled grammar progress)
    (next : Given → Except UsageError α) : Refused later (progress.settle grammar >>= next) := by
  obtain ⟨error, refused⟩ := spoiled.refused
  rw [refused]
  exact .inl ⟨error, rfl, exitCode_of_settle refused⟩

theorem Spoiled.takeLong (spoiled : Spoiled grammar progress) (name : Text) (value? : Option Text) :
    Refused (Spoiled grammar) (progress.takeLong grammar name value?) := by
  unfold Progress.takeLong
  cases grammar.long? name with
  | none => exact .inl ⟨_, rfl, rfl⟩
  | some rule =>
    dsimp only
    split
    · cases value? with
      | some value => exact spoiled.bind_settle _
      | none => exact spoiled.bind_settle _
    · split
      · exact .inl ⟨_, rfl, rfl⟩
      · exact spoiled.bind_settle _

theorem Spoiled.takeLetters (spoiled : Spoiled grammar progress) (letters : Text) :
    Refused (Spoiled grammar) (progress.takeLetters grammar letters) := by
  cases letters with
  | nil => exact .inr ⟨progress, rfl, spoiled⟩
  | cons letter more =>
    unfold Progress.takeLetters
    cases grammar.short? letter with
    | none => exact .inl ⟨_, rfl, rfl⟩
    | some rule =>
      dsimp only
      rw [Progress.takeOption, bind_assoc]
      exact spoiled.bind_settle _

theorem Spoiled.takeOperand (spoiled : Spoiled grammar progress) (text : Text) :
    Refused (Spoiled grammar) (progress.takeOperand grammar text) := by
  unfold Progress.takeOperand
  split
  · exact .inl ⟨_, rfl, rfl⟩
  · next texts kind pending =>
    obtain ⟨error, refused⟩ := spoiled.refused
    rw [Progress.settle, pending] at refused
    -- One wrong operand is enough, so those behind it change nothing.
    have wrong := (Given.addOperands_eq_error refused).1
    refine .inr ⟨_, rfl, ⟨.invalidValue, ?_⟩, by simp⟩
    simp [Progress.settle, Given.addOperands_eq, Given.areRefused_append, wrong]
  · split
    · exact .inl ⟨_, rfl, rfl⟩
    · exact spoiled.bind_settle _

theorem Spoiled.take (spoiled : Spoiled grammar progress) (text : Text) :
    Refused (Spoiled grammar) (progress.take grammar text) := by
  unfold Progress.take
  split
  · exact spoiled.takeOperand text
  · cases Word.ofText text with
    | endOfOptions => exact .inr ⟨_, rfl, spoiled.refused, spoiled.given⟩
    | long name value? => exact spoiled.takeLong name value?
    | letters letters => exact spoiled.takeLetters letters
    | plain text =>
      dsimp only
      rw [takePlain_eq spoiled.given]
      exact spoiled.takeOperand text

theorem spoiled_of_isOpen {error : UsageError} (isOpen : progress.isOpen = true)
    (refused : progress.settle grammar = .error error) : Spoiled grammar progress := by
  refine ⟨⟨error, refused⟩, ?_⟩
  intro rule waiting
  simp [Progress.isOpen, waiting] at isOpen

/-- What is spoiled is refused in the end. -/
theorem Spoiled.finish (spoiled : Spoiled grammar progress) (words : List Text) :
    ∃ error, progress.finish grammar words = .error error ∧ error.exitCode = 2 := by
  induction words generalizing progress with
  | nil =>
    obtain ⟨error, refused⟩ := spoiled.refused
    exact ⟨error, refused, exitCode_of_settle refused⟩
  | cons word words ih =>
    rw [finish_cons]
    rcases spoiled.take word with ⟨error, refused, code⟩ | ⟨next, taken, later⟩
    · rw [refused]
      exact ⟨error, rfl, code⟩
    · rw [taken]
      exact ih later

end Refusing

end MessageKeys.CommandLine
