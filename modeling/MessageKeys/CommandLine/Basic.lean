import MessageKeys.Project.Check

/-!
Commands, as a command line gives them.
-/
namespace MessageKeys

/-- The options that all commands on a project share. -/
structure CommonOptions where
  sourceRoot? : Option Path
  patterns : List Text
  properties : List Text
  verbose : Bool
  deriving DecidableEq, Repr

/-- The project that the options choose; the current directory is the default root. -/
def CommonOptions.choice (options : CommonOptions) : ProjectChoice :=
  ⟨options.sourceRoot?.getD ['.'], options.patterns, options.properties⟩

/-- What is looked up: a key, or the key that stands at a place in a source file. -/
inductive Sought where
  | key (key : Text)
  | place (text : Text)
  deriving DecidableEq, Repr

/-- A command. -/
inductive Command where
  | check (checks : List Check) (options : CommonOptions)
  | lookUp (sought : Sought) (options : CommonOptions)
  | keys (filter? : Option Text) (options : CommonOptions)
  | addKey (key value : Text) (file? : Option Path) (options : CommonOptions)
  | fix (apply : Bool) (file? : Option Path) (options : CommonOptions)
  | init
  | serve
  deriving DecidableEq, Repr

namespace Command

/-- The options of a command on a project. -/
def options? : Command → Option CommonOptions
  | check _ options => some options
  | lookUp _ options => some options
  | keys _ options => some options
  | addKey _ _ _ options => some options
  | fix _ _ options => some options
  | init => none
  | serve => none

/-- Whether details are asked for. -/
def isVerbose (command : Command) : Bool := command.options?.any (·.verbose)

end Command

/-- Why a command line names no command. The first two are requests for information. -/
inductive UsageError where
  | displayHelp
  | displayVersion
  | invalidSubcommand
  | unknownArgument
  | invalidValue
  | argumentConflict
  | tooManyValues
  | missingArgument
  deriving DecidableEq, Repr

namespace UsageError

/-- The exit status of a program that stops with a usage error. -/
def exitCode : UsageError → Nat
  | displayHelp => 0
  | displayVersion => 0
  | _ => 2

def message : UsageError → Text
  | displayHelp => "help was asked for".toList
  | displayVersion => "the version was asked for".toList
  | invalidSubcommand => "unrecognized subcommand".toList
  | unknownArgument => "unexpected argument".toList
  | invalidValue => "a value is missing or invalid".toList
  | argumentConflict => "an argument cannot be used with another one or a second time".toList
  | tooManyValues => "unexpected value for a flag".toList
  | missingArgument => "a required argument was not provided".toList

end UsageError

end MessageKeys
