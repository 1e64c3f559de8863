import MessageKeys.Command.Change
import MessageKeys.Command.Inspect

/-!
Running commands.
-/
namespace MessageKeys.Command

/-- Runs a command on a tree of files. -/
def run (tree : FileTree) : Command → Outcome
  | check checks options => runCheck tree checks options
  | lookUp sought options => runLookUp tree sought options
  | keys filter? options => runKeys tree filter? options
  | addKey key value file? options => runAddKey tree key value file? options
  | fix apply file? options => runFix tree apply file? options
  | init => runInit tree
  | serve => .failed tree .serving

/-- An overview of the commands. -/
def helpText : Text := (String.intercalate "\n" [
  "A fast CLI tool for checking message keys and placeholder arguments in Java projects",
  "",
  "Usage: msgkey [COMMAND]",
  "",
  "Commands:",
  "  check    Check message key usages (placeholder arguments, undefined keys)",
  "  show     Show the value and location of a message key",
  "  keys     List defined message keys",
  "  add-key  Add a message key to a properties file",
  "  fix      Add every undefined message key to a properties file",
  "  init     Initialize a new .msgkeyrc.json configuration file",
  "  serve    Start MCP server for AI coding agents",
  "  help     Print this message or the help of the given subcommand(s)",
  "",
  "Options:",
  "  -h, --help     Print help",
  "  -V, --version  Print version",
  ""]).toList

/-- Runs a command, or prints the overview if there is none. -/
def runOrHelp (tree : FileTree) : Option Command → Outcome
  | some command => command.run tree
  | none => .printed tree (.plain helpText) .success

end MessageKeys.Command
