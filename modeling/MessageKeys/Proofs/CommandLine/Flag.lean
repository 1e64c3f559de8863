import MessageKeys.Proofs.CommandLine.Reading

/-!
The flag that asks for details on a command line.

Two lines are read side by side of which one has the flag in addition. It settles what is pending,
and it may divide operands that would be taken together otherwise; from then on the two readings
differ in no more than that (`Alongside`), and every word keeps them so (`agree_take`). So the line
with the flag is accepted if the other one is, and gives the same apart from the flag, and else
both are refused (`readWords_flag`).
-/
namespace MessageKeys.CommandLine

/-! ## Two results -/

/-- The same error, or results that are related. -/
inductive Agree {α β : Type} (related : α → β → Prop) :
    Except UsageError α → Except UsageError β → Prop
  | ok {a : α} {b : β} (alike : related a b) : Agree related (.ok a) (.ok b)
  | error (error : UsageError) : Agree related (.error error) (.error error)

section Agreeing

variable {α β γ δ : Type} {related : α → β → Prop} {x : Except UsageError α}
  {y : Except UsageError β}

theorem Agree.cases (agree : Agree related x y) :
    (∃ error, x = .error error ∧ y = .error error) ∨
      ∃ a b, x = .ok a ∧ y = .ok b ∧ related a b := by
  cases agree with
  | ok alike => exact .inr ⟨_, _, rfl, rfl, alike⟩
  | error error => exact .inl ⟨error, rfl, rfl⟩

theorem Agree.exists_of_ok {a : α} (agree : Agree related (.ok a) y) : ∃ b, related a b := by
  cases agree with
  | ok alike => exact ⟨_, alike⟩

theorem Agree.imp {stronger : α → β → Prop} (agree : Agree related x y)
    (step : ∀ a b, x = .ok a → y = .ok b → related a b → stronger a b) : Agree stronger x y := by
  cases agree with
  | ok alike => exact .ok (step _ _ rfl rfl alike)
  | error error => exact .error error

theorem Agree.bind {next : γ → δ → Prop} {f : α → Except UsageError γ}
    {g : β → Except UsageError δ} (agree : Agree related x y)
    (step : ∀ a b, related a b → x = .ok a → Agree next (f a) (g b)) :
    Agree next (x >>= f) (y >>= g) := by
  cases agree with
  | ok alike => exact step _ _ alike rfl
  | error error => exact .error error

end Agreeing

/-! ## What is given -/

namespace Given

/-- What is given without the flag, and with it. -/
structure Flagged (given flagged : Given) : Prop where
  others : flagged.options.filter (fun option => option.1 != .verbose) = given.options
  flag : flagged.has .verbose = true
  operands : flagged.operands = given.operands

variable {given flagged : Given} {rule : OptionRule}

theorem Flagged.values_eq (alike : given.Flagged flagged) (apart : rule ≠ .verbose) :
    flagged.values rule = given.values rule := by
  rw [values, values, ← alike.others, List.filter_filter]
  congr 2
  funext option
  by_cases same : option.1 = rule
  · simp [same, apart]
  · simp [same]

theorem Flagged.value?_eq (alike : given.Flagged flagged) (apart : rule ≠ .verbose) :
    flagged.value? rule = given.value? rule := by
  rw [value?, value?, alike.values_eq apart]

theorem Flagged.has_eq (alike : given.Flagged flagged) (apart : rule ≠ .verbose) :
    flagged.has rule = given.has rule := by
  rw [has, has, alike.value?_eq apart]

theorem agree_addOption (alike : given.Flagged flagged) (apart : rule ≠ .verbose) (value : Text) :
    Agree Flagged (given.addOption rule value) (flagged.addOption rule value) := by
  unfold addOption
  rw [alike.has_eq apart]
  split
  · exact .error _
  · split
    · exact .error _
    · refine .ok ⟨?_, ?_, alike.operands⟩
      · simp [List.filter_append, alike.others, apart]
      · have flag := alike.flag
        rw [has_eq_any] at flag ⊢
        simp [flag]

theorem agree_addOperands (alike : given.Flagged flagged) (kind : OperandKind) (texts : List Text) :
    Agree Flagged (given.addOperands kind texts) (flagged.addOperands kind texts) := by
  unfold addOperands
  split
  · exact .error _
  · exact .ok ⟨alike.others, alike.flag, by simp [alike.operands]⟩

theorem Flagged.plain (alike : given.Flagged flagged) :
    ∀ option ∈ given.options, option.1 ≠ .verbose := by
  intro option member
  rw [← alike.others, List.mem_filter] at member
  simpa using member.2

theorem Flagged.absent (alike : given.Flagged flagged) : given.has .verbose = false := by
  rw [has_eq_any, List.any_eq_false]
  intro option member
  simpa using alike.plain option member

/-- Where the flag may have been given, it is taken. -/
theorem Flagged.exists_addOption (alike : given.Flagged flagged) :
    ∃ next, given.addOption .verbose [] = .ok next ∧ given.Flagged next := by
  have kind : OptionRule.verbose.kind = .flag := rfl
  refine ⟨{ given with options := given.options ++ [(.verbose, [])] }, ?_, ?_, ?_, rfl⟩
  · simp [addOption, alike.absent, kind]
  · rw [List.filter_append, List.filter_eq_self.mpr]
    · simp
    · intro option member
      simpa using alike.plain option member
  · simp [has_eq_any]

end Given

/-! ## What is read -/

/-- The flag is never pending, and operands that are pending are some. -/
def Pending.IsPlain : Pending → Prop
  | .nothing => True
  | .option rule _ => rule ≠ .verbose
  | .operands texts => texts ≠ []

/-- What is read of a line without the flag, and of the line with it. -/
inductive Alongside (grammar : Grammar) : Progress → Progress → Prop
  /-- The same is pending. -/
  | same {given flagged : Given} {pending : Pending} {onlyOperands : Bool}
      (alike : given.Flagged flagged) (plain : pending.IsPlain) :
      Alongside grammar ⟨given, pending, onlyOperands⟩ ⟨flagged, pending, onlyOperands⟩
  /-- The flag has settled what is pending. -/
  | settled {progress : Progress} {given flagged : Given}
      (settles : progress.settle grammar = .ok given) (alike : given.Flagged flagged)
      (plain : progress.pending.IsPlain) :
      Alongside grammar progress ⟨flagged, .nothing, progress.onlyOperands⟩
  /-- The flag has divided operands. -/
  | divided {given whole flagged : Given} {early late : List Text} {onlyOperands : Bool}
      (settles : given.addOperands grammar.operands early = .ok whole)
      (alike : whole.Flagged flagged) (plain : late ≠ []) :
      Alongside grammar ⟨given, .operands (early ++ late), onlyOperands⟩
        ⟨flagged, .operands late, onlyOperands⟩

section Reading

variable {grammar : Grammar} {progress flagged : Progress}

theorem agree_settle (alongside : Alongside grammar progress flagged) :
    Agree Given.Flagged (progress.settle grammar) (flagged.settle grammar) := by
  cases alongside with
  | @same _ _ pending _ alike plain =>
    cases pending with
    | nothing => exact .ok alike
    | option rule value? =>
      cases value? with
      | none => exact .error _
      | some value => exact Given.agree_addOption alike plain value
    | operands texts => exact Given.agree_addOperands alike _ texts
  | settled settles alike plain =>
    rw [settles]
    exact .ok alike
  | @divided _ _ _ early late _ settles alike plain =>
    have whole := Given.addOperands_append settles late
    simp only [Progress.settle, whole]
    exact Given.agree_addOperands alike _ late

theorem onlyOperands_eq (alongside : Alongside grammar progress flagged) :
    flagged.onlyOperands = progress.onlyOperands := by
  cases alongside <;> rfl

/-- What becomes pending when the rest is settled is the same. -/
theorem agree_replace (alongside : Alongside grammar progress flagged) {pending : Pending}
    (plain : pending.IsPlain) :
    Agree (Alongside grammar)
      (do return { progress with given := ← progress.settle grammar, pending })
      (do return { flagged with given := ← flagged.settle grammar, pending }) := by
  refine (agree_settle alongside).bind ?_
  intro given marked alike _
  rw [onlyOperands_eq alongside]
  exact .ok (.same alike plain)

theorem agree_takeOption (alongside : Alongside grammar progress flagged) {rule : OptionRule}
    (apart : rule ≠ .verbose) (value : Text) :
    Agree (Alongside grammar) (progress.takeOption grammar rule value)
      (flagged.takeOption grammar rule value) := by
  refine (agree_settle alongside).bind ?_
  intro given marked alike _
  split
  · exact .error _
  · refine (Given.agree_addOption alike apart value).bind ?_
    intro next markedNext alikeNext _
    rw [onlyOperands_eq alongside]
    exact .ok (.same alikeNext trivial)

theorem ne_verbose_of_long? {name : Text} {rule : OptionRule}
    (found : grammar.long? name = some rule) (apart : name ≠ OptionRule.verbose.name) :
    rule ≠ .verbose := by
  rintro rfl
  have same : OptionRule.verbose.name = name := by simpa using List.find?_some found
  exact apart same.symm

theorem ne_verbose_of_short? {letter : Char} {rule : OptionRule}
    (found : grammar.short? letter = some rule) (apart : letter ≠ 'v') : rule ≠ .verbose := by
  rintro rfl
  have same : OptionRule.verbose.short? = some letter := by simpa using List.find?_some found
  exact apart (Option.some.inj same).symm

theorem agree_takeLong (alongside : Alongside grammar progress flagged) {name : Text}
    (apart : name ≠ OptionRule.verbose.name) (value? : Option Text) :
    Agree (Alongside grammar) (progress.takeLong grammar name value?)
      (flagged.takeLong grammar name value?) := by
  unfold Progress.takeLong
  cases found : grammar.long? name with
  | none => exact .error _
  | some rule =>
    have other := ne_verbose_of_long? found apart
    dsimp only
    split
    · cases value? with
      | some value => exact agree_takeOption alongside other value
      | none => exact agree_replace alongside other
    · split
      · exact .error _
      · exact agree_takeOption alongside other []

theorem agree_takeLetters (alongside : Alongside grammar progress flagged) {letters : Text}
    (apart : 'v' ∉ letters) :
    Agree (Alongside grammar) (progress.takeLetters grammar letters)
      (flagged.takeLetters grammar letters) := by
  induction letters generalizing progress flagged with
  | nil => exact .ok alongside
  | cons letter more ih =>
    unfold Progress.takeLetters
    cases found : grammar.short? letter with
    | none => exact .error _
    | some rule =>
      have other : rule ≠ .verbose := by
        refine ne_verbose_of_short? found ?_
        rintro rfl
        exact apart List.mem_cons_self
      refine (agree_takeOption alongside other []).bind ?_
      intro next markedNext alongsideNext _
      exact ih alongsideNext fun member => apart (List.mem_cons_of_mem _ member)

/-- Settling keeps whether there is an operand. -/
theorem hasOperand_of_settle {given : Given} (settles : progress.settle grammar = .ok given)
    (plain : progress.pending.IsPlain) : progress.hasOperand = (given.operands ≠ [] : Bool) := by
  obtain ⟨held, pending, _⟩ := progress
  cases pending with
  | nothing =>
    cases settles
    simp [Progress.hasOperand]
  | option rule value? =>
    cases value? with
    | none => cases settles
    | some value => simp [Progress.hasOperand, Given.operands_of_addOption settles]
  | operands texts =>
    have filled : texts ≠ [] := plain
    simp [Progress.hasOperand, (Given.addOperands_eq_ok settles).2, filled]

theorem hasOperand_eq (alongside : Alongside grammar progress flagged) :
    flagged.hasOperand = progress.hasOperand := by
  cases alongside with
  | same alike plain => simp only [Progress.hasOperand, alike.operands]
  | settled settles alike plain =>
    rw [hasOperand_of_settle settles plain]
    simp [Progress.hasOperand, alike.operands]
  | divided settles alike plain => simp [Progress.hasOperand]

theorem agree_takeOperand (alongside : Alongside grammar progress flagged) (text : Text) :
    Agree (Alongside grammar) (progress.takeOperand grammar text)
      (flagged.takeOperand grammar text) := by
  have plain : (Pending.operands [text]).IsPlain := List.cons_ne_nil _ _
  have started := agree_replace alongside plain
  have operand := hasOperand_eq alongside
  unfold Progress.takeOperand
  cases kind : grammar.operands with
  | nothing => exact .error _
  | oneText =>
    simp only [operand]
    split
    · exact .error _
    · exact started
  | checks =>
    cases alongside with
    | @same _ _ pending _ alike plain =>
      cases pending with
      | operands texts => exact .ok (.same alike (by simp [Pending.IsPlain]))
      | nothing => exact started
      | option rule value? => exact started
    | @settled _ given _ settles alike plain =>
      obtain ⟨held, pending, onlyOperands⟩ := progress
      cases pending with
      -- The flag stood between two operands, which are taken together without it.
      | operands texts => exact .ok (.divided settles alike (List.cons_ne_nil _ _))
      | nothing => exact started
      | option rule value? => exact started
    | @divided _ _ _ early late _ settles alike plain =>
      dsimp only
      rw [List.append_assoc]
      exact .ok (.divided settles alike (by simp))

theorem agree_takePlain (alongside : Alongside grammar progress flagged) (text : Text) :
    Agree (Alongside grammar) (progress.takePlain grammar text)
      (flagged.takePlain grammar text) := by
  have operand := agree_takeOperand alongside text
  cases alongside with
  | @same _ _ pending _ alike plain =>
    cases pending with
    | option rule value? =>
      cases value? with
      | none => exact .ok (.same alike plain)
      | some value => exact operand
    | nothing => exact operand
    | operands texts => exact operand
  | settled settles alike plain =>
    rw [takePlain_eq (given_of_settle settles), takePlain_eq (by simp)]
    exact operand
  | divided settles alike plain => exact operand

/-- Whether a word holds the flag. -/
def Word.holdsFlag : Word → Bool
  | .long name _ => name == OptionRule.verbose.name
  | .letters written => written.contains 'v'
  | _ => false

/-- Every word keeps the two readings side by side. -/
theorem agree_take (alongside : Alongside grammar progress flagged) {text : Text}
    (unflagged : progress.onlyOperands = true ∨ (Word.ofText text).holdsFlag = false) :
    Agree (Alongside grammar) (progress.take grammar text) (flagged.take grammar text) := by
  unfold Progress.take
  rw [onlyOperands_eq alongside]
  split
  · exact agree_takeOperand alongside text
  · next options =>
    have free : (Word.ofText text).holdsFlag = false := unflagged.resolve_left options
    cases word : Word.ofText text with
    | endOfOptions =>
      cases alongside with
      | same alike plain => exact .ok (.same alike plain)
      | settled settles alike plain => exact .ok (.settled settles alike plain)
      | divided settles alike plain => exact .ok (.divided settles alike plain)
    | long name value? =>
      refine agree_takeLong alongside ?_ value?
      simpa [word, Word.holdsFlag] using free
    | letters letters =>
      refine agree_takeLetters alongside ?_
      simpa [word, Word.holdsFlag] using free
    | plain text => exact agree_takePlain alongside text

/-! ## Whole lines -/

/-- Whether no option among words is the flag; behind `--` there are no options. -/
def isUnflagged : List Text → Bool
  | [] => true
  | word :: more =>
    Word.ofText word == .endOfOptions || !(Word.ofText word).holdsFlag && isUnflagged more

/-- Whether no option among words that follow is the flag. -/
def Progress.awaitsUnflagged (progress : Progress) (words : List Text) : Bool :=
  progress.onlyOperands || isUnflagged words

theorem isUnflagged_of_append {words more : List Text}
    (unflagged : isUnflagged (words ++ more) = true) : isUnflagged words = true := by
  induction words with
  | nil => rfl
  | cons word words ih =>
    simp only [List.cons_append, isUnflagged, Bool.or_eq_true, Bool.and_eq_true] at unflagged ⊢
    exact unflagged.imp id fun ⟨free, rest⟩ => ⟨free, ih rest⟩

/-- A word that is no option leaves no options behind it, or it is not the flag. -/
theorem awaitsUnflagged_take {word : Text} {words : List Text}
    (unflagged : progress.awaitsUnflagged (word :: words) = true) :
    (progress.onlyOperands = true ∨ (Word.ofText word).holdsFlag = false) ∧
      ∀ next, progress.take grammar word = .ok next → next.awaitsUnflagged words = true := by
  unfold Progress.awaitsUnflagged at unflagged ⊢
  by_cases ended : progress.onlyOperands = true
  · refine ⟨.inl ended, ?_⟩
    intro next taken
    rw [Progress.take, if_pos ended] at taken
    rw [onlyOperands_of_takeOperand taken, ended, Bool.true_or]
  · simp only [isUnflagged, ended, Bool.false_or, Bool.or_eq_true, Bool.and_eq_true, beq_iff_eq,
      Bool.not_eq_true'] at unflagged
    rcases unflagged with ends | ⟨free, more⟩
    · refine ⟨.inr (by rw [ends]; rfl), ?_⟩
      intro next taken
      rw [Progress.take, if_neg ended, ends] at taken
      cases taken
      exact Bool.true_or _
    · refine ⟨.inr free, ?_⟩
      intro next _
      rw [more, Bool.or_true]

theorem awaitsUnflagged_takeAll {next : Progress} {words more : List Text}
    (unflagged : progress.awaitsUnflagged (words ++ more) = true)
    (taken : progress.takeAll grammar words = .ok next) : next.awaitsUnflagged more = true := by
  induction words generalizing progress with
  | nil =>
    cases taken
    exact unflagged
  | cons word words ih =>
    obtain ⟨_, step⟩ := awaitsUnflagged_take unflagged
    rw [takeAll_cons] at taken
    obtain ⟨between, first, rest⟩ := exists_of_bind_eq_ok taken
    exact ih (step between first) rest

theorem agree_takeAll (alongside : Alongside grammar progress flagged) {words : List Text}
    (unflagged : progress.awaitsUnflagged words = true) :
    Agree (Alongside grammar) (progress.takeAll grammar words) (flagged.takeAll grammar words) := by
  induction words generalizing progress flagged with
  | nil => exact .ok alongside
  | cons word words ih =>
    obtain ⟨free, step⟩ := awaitsUnflagged_take unflagged
    rw [takeAll_cons, takeAll_cons]
    refine (agree_take alongside free).bind ?_
    intro next markedNext alongsideNext taken
    exact ih alongsideNext (step next taken)

theorem agree_finish (alongside : Alongside grammar progress flagged) {words : List Text}
    (unflagged : progress.awaitsUnflagged words = true) :
    Agree Given.Flagged (progress.finish grammar words) (flagged.finish grammar words) := by
  refine (agree_takeAll alongside unflagged).bind ?_
  intro last markedLast alongsideLast _
  exact agree_settle alongsideLast

/-! ## The flag -/

/-- The words that write the flag. -/
def flagWords : List Text := ["-v".toList, "--verbose".toList]

/-- Whether options take the flag under its names. -/
structure TakesFlag (grammar : Grammar) : Prop where
  long : grammar.long? OptionRule.verbose.name = some .verbose
  short : grammar.short? 'v' = some .verbose

theorem take_flag {flag : Text} (takes : TakesFlag grammar) (isFlag : flag ∈ flagWords)
    (options : progress.onlyOperands = false) :
    progress.take grammar flag = progress.takeOption grammar .verbose [] := by
  unfold Progress.take
  rw [if_neg (by simp [options])]
  rcases List.mem_pair.mp isFlag with rfl | rfl
  · have word : Word.ofText "-v".toList = .letters ['v'] := by decide
    rw [word]
    simp only [Progress.takeLetters, takes.short]
    exact bind_pure _
  · have word : Word.ofText "--verbose".toList = .long OptionRule.verbose.name none := by decide
    rw [word]
    simp only [Progress.takeLong, takes.long]
    rfl

theorem isPlain_of_alongside (alongside : Alongside grammar progress flagged) :
    progress.pending.IsPlain := by
  cases alongside with
  | same alike plain => exact plain
  | settled settles alike plain => exact plain
  | divided settles alike plain => exact fun empty => plain (List.append_eq_nil_iff.mp empty).2

/-- The flag settles what is pending, and is read besides. -/
theorem takeOption_flag (alongside : Alongside grammar progress flagged) {given : Given}
    (settles : progress.settle grammar = .ok given) :
    ∃ next, progress.takeOption grammar .verbose [] = .ok next ∧
      Alongside grammar progress next := by
  have agree := agree_settle alongside
  rw [settles] at agree
  obtain ⟨marked, alike⟩ := agree.exists_of_ok
  obtain ⟨next, added, alikeNext⟩ := alike.exists_addOption
  refine ⟨⟨next, .nothing, progress.onlyOperands⟩, ?_,
    .settled settles alikeNext (isPlain_of_alongside alongside)⟩
  rw [Progress.takeOption, settles]
  have kind : OptionRule.verbose.kind ≠ .help := by decide
  simp [bind, Except.bind, kind, added, pure, Except.pure]

theorem alongside_start (grammar : Grammar) :
    Alongside grammar .start ⟨⟨[(.verbose, [])], []⟩, .nothing, false⟩ :=
  .same ⟨by simp [Given.nothing], by simp [Given.has_eq_any], rfl⟩ trivial

/-- Both lines are refused. -/
def BothRefused {α β : Type} (x : Except UsageError α) (y : Except UsageError β) : Prop :=
  ∃ error other, x = .error error ∧ y = .error other ∧ error.exitCode = 2 ∧ other.exitCode = 2

/-- Where an option may stand, the flag changes nothing else, unless the line is refused anyway. -/
theorem finish_flag {flag : Text} {words : List Text} (takes : TakesFlag grammar)
    (isFlag : flag ∈ flagWords) (isOpen : progress.isOpen = true)
    (unflagged : progress.awaitsUnflagged words = true)
    (alongside : Alongside grammar progress flagged) :
    Agree Given.Flagged (progress.finish grammar words) (progress.finish grammar (flag :: words)) ∨
      BothRefused (progress.finish grammar words) (progress.finish grammar (flag :: words)) := by
  have options : progress.onlyOperands = false := by
    simp only [Progress.isOpen, Bool.and_eq_true, Bool.not_eq_true'] at isOpen
    exact isOpen.1
  rw [finish_cons, take_flag takes isFlag options]
  cases settles : progress.settle grammar with
  | ok given =>
    obtain ⟨next, flagTaken, alongsideNext⟩ := takeOption_flag alongside settles
    rw [flagTaken]
    exact .inl (agree_finish alongsideNext unflagged)
  | error error =>
    obtain ⟨other, refused, code⟩ := (spoiled_of_isOpen isOpen settles).finish words
    refine .inr ⟨other, error, refused, ?_, code, exitCode_of_settle settles⟩
    rw [Progress.takeOption, settles]
    rfl

/-- Whether an option may stand behind words, unless they are refused. -/
def isOpenAfter (grammar : Grammar) (words : List Text) : Bool :=
  match Progress.start.takeAll grammar words with
  | .ok progress => progress.isOpen
  | .error _ => true

/-- What is read of a line without the flag is read beside one with it. -/
theorem exists_alongside {words more : List Text} (unflagged : isUnflagged (words ++ more) = true)
    (taken : Progress.start.takeAll grammar words = .ok progress) :
    ∃ marked, Alongside grammar progress marked := by
  have beside := agree_takeAll (alongside_start grammar) (isUnflagged_of_append unflagged)
  rw [taken] at beside
  exact beside.exists_of_ok

/-- A line gives the same with the flag and without it, or it is refused. -/
theorem readWords_flag {flag : Text} {before after : List Text} (takes : TakesFlag grammar)
    (isFlag : flag ∈ flagWords) (unflagged : isUnflagged (before ++ after) = true)
    (isOpen : isOpenAfter grammar before = true) :
    Agree Given.Flagged (readWords grammar (before ++ after))
        (readWords grammar (before ++ flag :: after)) ∨
      BothRefused (readWords grammar (before ++ after))
        (readWords grammar (before ++ flag :: after)) := by
  have awaited : Progress.start.awaitsUnflagged (before ++ after) = true := unflagged
  rw [readWords_eq, readWords_eq, finish_append, finish_append]
  cases taken : Progress.start.takeAll grammar before with
  | error error => exact .inl (.error error)
  | ok progress =>
    obtain ⟨marked, alongside⟩ := exists_alongside unflagged taken
    rw [isOpenAfter, taken] at isOpen
    exact finish_flag takes isFlag isOpen (awaitsUnflagged_takeAll awaited taken) alongside

/-- Where no option may stand, the word is refused or an operand, and not the flag. -/
theorem has_of_closed {flag : Text} {before after : List Text} {given : Given}
    (takes : TakesFlag grammar) (isFlag : flag ∈ flagWords)
    (unflagged : isUnflagged (before ++ after) = true)
    (closed : isOpenAfter grammar before = false)
    (read : readWords grammar (before ++ flag :: after) = .ok given) :
    given.has .verbose = false := by
  rw [readWords_eq, finish_append] at read
  obtain ⟨progress, taken, rest⟩ := exists_of_bind_eq_ok read
  obtain ⟨marked, alongside⟩ := exists_alongside unflagged taken
  by_cases ended : progress.onlyOperands = true
  · have awaited : progress.awaitsUnflagged (flag :: after) = true := by
      rw [Progress.awaitsUnflagged, ended, Bool.true_or]
    have agree := agree_finish alongside awaited
    rw [rest] at agree
    obtain ⟨_, alike⟩ := agree.exists_of_ok
    exact alike.absent
  · replace ended : progress.onlyOperands = false := by simpa using ended
    rw [isOpenAfter, taken] at closed
    obtain ⟨rule, waiting⟩ := exists_waiting closed ended
    rw [finish_cons, take_flag takes isFlag ended, Progress.takeOption, Progress.settle,
      waiting] at rest
    cases rest

end Reading

end MessageKeys.CommandLine
