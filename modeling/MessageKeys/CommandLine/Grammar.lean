import MessageKeys.CommandLine.Basic

/-!
What the commands take.

A command has options and operands. An option is a flag, takes one value, or takes one value each
time it is given; a path as a value must not be empty. Operands are a list of checks, at most one
text, or none.
-/
namespace MessageKeys

/-- What an option takes. -/
inductive OptionKind where
  | flag
  | text
  | path
  /-- A text, any number of times. -/
  | texts
  | help
  deriving DecidableEq, Repr

/-- Whether an option takes a value. -/
def OptionKind.takesValue : OptionKind → Bool
  | flag => false
  | help => false
  | _ => true

/-- An option of a command. -/
structure OptionRule where
  name : Text
  short? : Option Char
  kind : OptionKind
  deriving DecidableEq, Repr

/-- What operands a command takes. -/
inductive OperandKind where
  | nothing
  | oneText
  | checks
  deriving DecidableEq, Repr

/-- What a command takes. -/
structure Grammar where
  options : List OptionRule
  operands : OperandKind
  deriving DecidableEq, Repr

/-- The names of commands. -/
inductive CommandName where
  | check
  | lookUp
  | keys
  | addKey
  | fix
  | init
  | serve
  deriving DecidableEq, Repr

namespace CommandName

def text : CommandName → Text
  | check => "check".toList
  | lookUp => "show".toList
  | keys => "keys".toList
  | addKey => "add-key".toList
  | fix => "fix".toList
  | init => "init".toList
  | serve => "serve".toList

def all : List CommandName := [check, lookUp, keys, addKey, fix, init, serve]

def ofText? (text : Text) : Option CommandName := all.find? fun name => name.text == text

end CommandName

namespace OptionRule

def sourceRoot : OptionRule := ⟨"source-root".toList, none, .path⟩

def pattern : OptionRule := ⟨"pattern".toList, none, .texts⟩

def properties : OptionRule := ⟨"properties".toList, none, .texts⟩

def verbose : OptionRule := ⟨"verbose".toList, some 'v', .flag⟩

def place : OptionRule := ⟨"at".toList, none, .text⟩

def value : OptionRule := ⟨"value".toList, none, .text⟩

def file : OptionRule := ⟨"file".toList, none, .path⟩

def apply : OptionRule := ⟨"apply".toList, none, .flag⟩

def help : OptionRule := ⟨"help".toList, some 'h', .help⟩

/-- The options that all commands on a project share. -/
def common : List OptionRule := [sourceRoot, pattern, properties, verbose, help]

end OptionRule

/-- What a command takes. -/
def CommandName.grammar : CommandName → Grammar
  | check => ⟨OptionRule.common, .checks⟩
  | lookUp => ⟨.place :: OptionRule.common, .oneText⟩
  | keys => ⟨OptionRule.common, .oneText⟩
  | addKey => ⟨.value :: .file :: OptionRule.common, .oneText⟩
  | fix => ⟨.apply :: .file :: OptionRule.common, .nothing⟩
  | init => ⟨[.help], .nothing⟩
  | serve => ⟨[.help], .nothing⟩

/-- The option of a long name. -/
def Grammar.long? (grammar : Grammar) (name : Text) : Option OptionRule :=
  grammar.options.find? fun rule => rule.name == name

/-- The option of a letter. -/
def Grammar.short? (grammar : Grammar) (letter : Char) : Option OptionRule :=
  grammar.options.find? fun rule => rule.short? == some letter

end MessageKeys
