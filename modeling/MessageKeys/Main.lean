import MessageKeys.Command.Run
import MessageKeys.CommandLine.Parser

/-!
The command-line program.

It reads the current directory, runs the command, writes the files that the command changed and
prints what it has to say. All decisions are made by `CommandLine.parse` and `Command.runOrHelp`.
-/
namespace MessageKeys

/-- What stands below a directory, each with the names that lead to it. -/
partial def readEntries (route : Route) (entries : Array IO.FS.DirEntry) :
    IO (List (Route × Node)) := do
  let mut found := []
  for entry in entries do
    let here := route ++ [entry.fileName.toList]
    if ← entry.path.isDir then
      found := found ++ (here, .directory) :: (← readEntries here (← entry.path.readDir))
    else
      let bytes ← IO.FS.readBinFile entry.path
      found := found ++ [(here, .file (.ofBytes bytes.toList))]
  return found

/-- The tree of the current directory. -/
def readTree : IO FileTree := do
  return ⟨← readEntries [] (← (← IO.currentDir).readDir)⟩

/-- A path from the current directory. -/
def routeText (route : Route) : String := String.ofList (Path.ofPieces route)

/-- Writes the directories and files that one tree has over another. -/
def writeChanges (before after : FileTree) : IO Unit := do
  for (route, node) in after.entries do
    if before.entries.lookup route ≠ some node then
      match node with
      | .directory => IO.FS.createDirAll (routeText route)
      | .file (.text text) => IO.FS.writeFile (routeText route) (String.ofList text)
      | .file (.binary bytes) => IO.FS.writeBinFile (routeText route) ⟨bytes.toArray⟩

/-- Whether a stream shows colours. -/
def showsColors (stream : IO.FS.Stream) : IO Bool := do
  return (← stream.isTty) && (← IO.getEnv "NO_COLOR").isNone

/-- Writes output to a stream. -/
def emit (stream : IO.FS.Stream) (output : Styled) : IO Unit := do
  stream.putStr (String.ofList (output.render (← showsColors stream)))
  stream.flush

/-- Runs a command in the current directory, or prints the overview. -/
def runHere (command? : Option Command) : IO UInt32 := do
  let tree ← readTree
  let outcome := Command.runOrHelp tree command?
  writeChanges tree outcome.tree
  emit (← IO.getStdout) outcome.output
  emit (← IO.getStderr) outcome.remarks
  match outcome.status with
  | .ok status => return status.code.toUInt32
  | .error error =>
    let verbose := command?.any (·.isVerbose)
    emit (← IO.getStderr) (.line (.plain ("Error: ".toList ++ error.fullMessage verbose)))
    return ExitStatus.error.code.toUInt32

/-- Answers a command line that names no command. -/
def explain (error : UsageError) : IO UInt32 := do
  match error with
  | .displayHelp => emit (← IO.getStdout) (.plain Command.helpText)
  | .displayVersion => emit (← IO.getStdout) (.line (.literal "msgkey 0.1.0"))
  | _ => emit (← IO.getStderr) (.line (.plain ("error: ".toList ++ error.message)))
  return error.exitCode.toUInt32

end MessageKeys

open MessageKeys in
/-- Runs the command that the arguments give. -/
def main (arguments : List String) : IO UInt32 := do
  match CommandLine.parse (arguments.map String.toList) with
  | .error error => explain error
  | .ok command? => runHere command?
