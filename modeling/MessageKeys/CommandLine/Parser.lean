import MessageKeys.CommandLine.Grammar

/-!
Reading a command line.

Words are read from left to right. An option that waits for its value, or operands that may go on,
are pending; they are settled, and only then judged, when the next option begins or the line ends,
so an unknown argument is reported before a bad value that stands just before it. After `--` all
words are operands.
-/
namespace MessageKeys.CommandLine

/-- A word, as its beginning tells. -/
inductive Word where
  /-- The word `--`. -/
  | endOfOptions
  /-- An option `--name` or `--name=value`. -/
  | long (name : Text) (value? : Option Text)
  /-- Letters behind one dash. -/
  | letters (letters : Text)
  | plain (text : Text)
  deriving DecidableEq, Repr

/-- What a word is. A dash alone is a plain word. -/
def Word.ofText : Text → Word
  | ['-', '-'] => endOfOptions
  | '-' :: '-' :: rest =>
    match Text.cutFirst? '=' rest with
    | some (name, value) => long name (some value)
    | none => long rest none
  | ['-'] => plain ['-']
  | '-' :: rest => letters rest
  | text => plain text

/-- What has been given: options with their values, flags with the empty text, and operands. -/
structure Given where
  options : List (OptionRule × Text)
  operands : List Text
  deriving DecidableEq, Repr

namespace Given

def nothing : Given := ⟨[], []⟩

/-- All values of an option. -/
def values (given : Given) (rule : OptionRule) : List Text :=
  (given.options.filter (·.1 == rule)).map (·.2)

def value? (given : Given) (rule : OptionRule) : Option Text := (given.values rule).head?

def has (given : Given) (rule : OptionRule) : Bool := (given.value? rule).isSome

/-- Adds an option with its value. -/
def addOption (given : Given) (rule : OptionRule) (value : Text) : Except UsageError Given :=
  if rule.kind ≠ .texts ∧ given.has rule then .error .argumentConflict
  else if rule.kind = .path ∧ value = [] then .error .invalidValue
  else .ok { given with options := given.options ++ [(rule, value)] }

/-- Adds operands. -/
def addOperands (given : Given) (kind : OperandKind) (texts : List Text) :
    Except UsageError Given :=
  if kind = .checks ∧ texts.any fun text => (Check.ofName? text).isNone then .error .invalidValue
  else .ok { given with operands := given.operands ++ texts }

end Given

/-- What is not settled yet. -/
inductive Pending where
  | nothing
  /-- An option without or with its value. -/
  | option (rule : OptionRule) (value? : Option Text)
  | operands (texts : List Text)
  deriving DecidableEq, Repr

/-- What has been read. -/
structure Progress where
  given : Given
  pending : Pending
  /-- Whether `--` has been read. -/
  onlyOperands : Bool
  deriving DecidableEq, Repr

namespace Progress

def start : Progress := ⟨.nothing, .nothing, false⟩

/-- Settles what is pending. -/
def settle (progress : Progress) (grammar : Grammar) : Except UsageError Given :=
  match progress.pending with
  | .nothing => .ok progress.given
  | .option _ none => .error .invalidValue
  | .option rule (some value) => progress.given.addOption rule value
  | .operands texts => progress.given.addOperands grammar.operands texts

/-- Takes an option that is complete. -/
def takeOption (progress : Progress) (grammar : Grammar) (rule : OptionRule) (value : Text) :
    Except UsageError Progress := do
  let given ← progress.settle grammar
  if rule.kind = .help then throw .displayHelp
  return { progress with given := ← given.addOption rule value, pending := .nothing }

/-- Takes a word with two dashes. -/
def takeLong (progress : Progress) (grammar : Grammar) (name : Text) (value? : Option Text) :
    Except UsageError Progress :=
  match grammar.long? name with
  | none => .error .unknownArgument
  | some rule =>
    if rule.kind.takesValue then
      match value? with
      | some value => progress.takeOption grammar rule value
      | none => do
        let given ← progress.settle grammar
        return { progress with given, pending := .option rule none }
    else if value?.isSome then .error .tooManyValues
    else progress.takeOption grammar rule []

/-- Takes letters behind a dash, each of which is a flag. -/
def takeLetters (progress : Progress) (grammar : Grammar) : Text → Except UsageError Progress
  | [] => .ok progress
  | letter :: more =>
    match grammar.short? letter with
    | none => .error .unknownArgument
    | some rule => do
      let next ← progress.takeOption grammar rule []
      takeLetters next grammar more

/-- Whether an operand has been read. -/
def hasOperand (progress : Progress) : Bool :=
  progress.given.operands ≠ [] ||
    match progress.pending with
    | .operands _ => true
    | _ => false

/-- Takes an operand. -/
def takeOperand (progress : Progress) (grammar : Grammar) (text : Text) :
    Except UsageError Progress :=
  match grammar.operands, progress.pending with
  | .nothing, _ => .error .unknownArgument
  | .checks, .operands texts => .ok { progress with pending := .operands (texts ++ [text]) }
  | kind, _ =>
    if kind = .oneText ∧ progress.hasOperand then .error .unknownArgument
    else do
      let given ← progress.settle grammar
      return { progress with given, pending := .operands [text] }

/-- Takes a plain word: the value of an option that waits for one, else an operand. -/
def takePlain (progress : Progress) (grammar : Grammar) (text : Text) :
    Except UsageError Progress :=
  match progress.pending with
  | .option rule none => .ok { progress with pending := .option rule (some text) }
  | _ => progress.takeOperand grammar text

/-- Takes a word. -/
def take (progress : Progress) (grammar : Grammar) (text : Text) : Except UsageError Progress :=
  if progress.onlyOperands then progress.takeOperand grammar text
  else
    match Word.ofText text with
    | .endOfOptions => .ok { progress with onlyOperands := true }
    | .long name value? => progress.takeLong grammar name value?
    | .letters letters => progress.takeLetters grammar letters
    | .plain text => progress.takePlain grammar text

end Progress

/-- Reads all words. -/
def readWords (grammar : Grammar) (words : List Text) : Except UsageError Given := do
  let progress ← words.foldlM (fun progress word => progress.take grammar word) Progress.start
  progress.settle grammar

namespace Given

/-- The options that all commands on a project share. -/
def common (given : Given) : CommonOptions where
  sourceRoot? := given.value? .sourceRoot
  patterns := given.values .pattern
  properties := given.values .properties
  verbose := given.has .verbose

/-- What is looked up: exactly one of a key and a place. -/
def sought (given : Given) : Except UsageError Sought :=
  match given.operands.head?, given.value? .place with
  | some _, some _ => .error .argumentConflict
  | some key, none => .ok (.key key)
  | none, some place => .ok (.place place)
  | none, none => .error .missingArgument

/-- The command of a name. -/
def command (given : Given) : CommandName → Except UsageError Command
  | .check => .ok (.check (given.operands.filterMap Check.ofName?) given.common)
  | .lookUp => do return .lookUp (← given.sought) given.common
  | .keys => .ok (.keys given.operands.head? given.common)
  | .addKey =>
    match given.operands.head? with
    | none => .error .missingArgument
    | some key =>
      .ok (.addKey key ((given.value? .value).getD []) (given.value? .file) given.common)
  | .fix => .ok (.fix (given.has .apply) (given.value? .file) given.common)
  | .init => .ok .init
  | .serve => .ok .serve

end Given

/-- The word that asks for help on a command. -/
def helpWord : Text := "help".toList

/-- What a request for help on some commands comes to; commands have none below them. -/
def helpOn : List Text → UsageError
  | [] => .displayHelp
  | [name] =>
    if (CommandName.ofText? name).isSome ∨ name = helpWord then .displayHelp else .invalidSubcommand
  | _ => .invalidSubcommand

/-- What an option in place of a command comes to. -/
def topOption : Word → UsageError
  | .long name value? =>
    if name = "help".toList ∨ name = "version".toList then
      if value?.isSome then .tooManyValues
      else if name = "help".toList then .displayHelp
      else .displayVersion
    else .unknownArgument
  | .letters ('h' :: _) => .displayHelp
  | .letters ('V' :: _) => .displayVersion
  | .letters _ => .unknownArgument
  | _ => .invalidSubcommand

/-- What stands behind `--` in place of a command: nothing, or an argument that does not belong
there. -/
def afterEnd : List Text → Except UsageError (Option Command)
  | [] => .ok none
  | word :: _ =>
    if (CommandName.ofText? word).isSome ∨ word = helpWord then .error .unknownArgument
    else .error .invalidSubcommand

/-- The command that a command line gives, if it gives any. -/
def parse : List Text → Except UsageError (Option Command)
  | [] => .ok none
  | word :: rest =>
    match CommandName.ofText? word with
    | some name => do
      let given ← readWords name.grammar rest
      return some (← given.command name)
    | none =>
      if word = helpWord then .error (helpOn rest)
      else
        match Word.ofText word with
        | .endOfOptions => afterEnd rest
        | other => .error (topOption other)

end MessageKeys.CommandLine
