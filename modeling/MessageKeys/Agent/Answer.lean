import MessageKeys.Agent.Request
import MessageKeys.Project.AddKey
import MessageKeys.Project.Check

/-!
Answers to an agent.

An answer is a JSON object, or an error. Besides the answer a request may change files and leave
remarks.
-/
namespace MessageKeys.Agent

/-- Why a request fails. -/
inductive ToolError where
  | config (error : Config.LoadError)
  | project (error : ProjectError)
  | addition (error : Properties.EditError)
  deriving DecidableEq, Repr

def ToolError.message : ToolError → Text
  | config error => "Failed to load config: ".toList ++ error.message
  | project error => "Failed to initialize: ".toList ++ error.fullMessage
  | addition error => "Failed to add key: ".toList ++ error.message

/-- What a request leaves behind. -/
structure Response where
  tree : FileTree
  remarks : Styled
  answer : Except ToolError Json

/-- An object from its fields. -/
def record (fields : List (String × Json)) : Json :=
  .object (fields.map fun (name, value) => (name.toList, value))

/-- A placeholder issue as it is told to an agent. -/
def issueJson (issue : PlaceholderIssue) : Json :=
  record [("filePath", .string issue.context.location.file),
    ("line", .ofNat issue.context.location.line), ("col", .ofNat issue.context.location.column),
    ("key", .string issue.key), ("template", .string issue.template),
    ("rule", .string (Rule.ofKind issue.kind).name), ("message", .string issue.message),
    ("sourceLine", .string issue.context.sourceLine)]

/-- A message as it is told to an agent. -/
def messageJson (entry : Entry) : Json :=
  let placeholders := Template.PlaceholderSet.parse entry.value
  record [("key", .string entry.key), ("value", .string entry.value),
    ("filePath", .string entry.file), ("line", .ofNat entry.line),
    ("placeholders", .array (placeholders.indices.map Json.ofNat)),
    ("expectedArgumentCount", .ofNat placeholders.expectedCount)]

/-- A configuration as it is told to an agent. -/
def configJson (config : Config) : Json :=
  record [("messageKeyExtractionPatterns", .ofTexts config.methods),
    ("annotationKeyExtractionPatterns", .ofTexts config.annotations),
    ("propertyFileGlobs", .ofTexts config.propertyFileGlobs),
    ("sourceRoot", .string config.sourceRoot), ("includes", .ofTexts config.includes),
    ("ignores", .ofTexts config.ignores), ("ignoreBuildDirs", .bool config.ignoreBuildDirs)]

/-- A configuration and whether it comes from a file, as they are told to an agent. -/
def loadedJson (loaded : Config.Loaded) : Json :=
  record [("fromFile", .bool loaded.fromFile), ("config", configJson loaded.config)]

/-- The configuration that holds for a directory. -/
def configAnswer (tree : FileTree) (root : Path) : Except ToolError Json :=
  match Config.load tree root with
  | .error error => .error (.config error)
  | .ok loaded => .ok (loadedJson loaded)

/-- The sizes of pages of issues. -/
def issuePages : PageSize := ⟨20, 100⟩

/-- The sizes of pages of messages. -/
def messagePages : PageSize := ⟨50, 200⟩

/-- A page of the placeholder issues of a project. -/
def issuesAnswer (project : Project) (tree : FileTree) (request : PageRequest) : Json :=
  let issues := project.placeholderIssues (project.sources tree)
  let page := Page.ofRequest issuePages request issues
  record [("totalCount", .ofNat issues.length),
    ("totalFileCount", .ofNat (distinct (issues.map (·.context.location.file))).length),
    ("items", .array (page.items.map issueJson)), ("pagination", page.place)]

/-- The message of a key. -/
def messageAnswer (project : Project) (key : Text) : Json :=
  let entry? := project.catalog.get? (Text.trim key)
  record [("found", .bool entry?.isSome), ("key", .string (Text.trim key)),
    ("message", .ofOption messageJson entry?)]

/-- A page of the messages whose keys hold a text. -/
def searchAnswer (project : Project) (filter? : Option Text) (request : PageRequest) : Json :=
  let entries := project.catalog.search (filter?.getD [])
  let page := Page.ofRequest messagePages request entries
  record [("totalCount", .ofNat entries.length), ("items", .array (page.items.map messageJson)),
    ("pagination", page.place)]

/-- How the addition of a key went. -/
def additionJson (key : Text) (file? : Option Path) (message : Text) : Json :=
  record [("success", .bool file?.isSome), ("key", .string key),
    ("filePath", .ofOption .string file?), ("message", .string message)]

/-- The answer to the addition of a key. -/
def additionAnswer (key : Text) : KeyAddition → Except ToolError Json
  | .blankKey => .ok (additionJson key none "Message key must not be empty".toList)
  | .definedAt entry =>
    .ok (additionJson key none ("Key is already defined at ".toList ++ entry.file ++ ':' ::
      Text.ofNat entry.line))
  | .noTarget => .ok (additionJson key none "No properties file found; pass filePath".toList)
  | .failed error => .error (.addition error)
  | .definedIn file => .ok (additionJson key none ("Key is already defined in ".toList ++ file))
  | .added file => .ok (additionJson key (some file) "Key added".toList)

/-- Opens a project and goes on with it. -/
def onProjectAt (tree : FileTree) (root : Path)
    (act : Project → FileTree × Except ToolError Json) : Response :=
  let opening := Project.load tree (.ofRoot root)
  let remarks := Note.shown false opening.notes
  match opening.project with
  | .error error => ⟨tree, remarks, .error (.project error)⟩
  | .ok project =>
    let (left, answer) := act project
    ⟨left, remarks, answer⟩

/-- Does what a request asks for. A file is taken from the project's root. -/
def Request.serve (tree : FileTree) : Request → Response
  | getConfig root => ⟨tree, [], configAnswer tree root⟩
  | checkPlaceholders root page =>
    onProjectAt tree root fun project => (tree, .ok (issuesAnswer project tree page))
  | getMessage root key =>
    onProjectAt tree root fun project => (tree, .ok (messageAnswer project key))
  | searchKeys root filter? page =>
    onProjectAt tree root fun project => (tree, .ok (searchAnswer project filter? page))
  | addMessageKey root key value file? =>
    onProjectAt tree root fun project =>
      let (left, addition) := project.addKey tree key value (file?.map (Path.join root))
      (left, additionAnswer (Text.trim key) addition)

/-- What an agent is told about the tools. -/
def instructions : Text := (String.intercalate "\n" [
  "msgkey MCP helps AI agents keep Java message keys and their call sites consistent.",
  "",
  "Available tools:",
  "1. get_config - Get project configuration",
  "2. check_placeholders - Placeholder numbering and argument-count issues (paginated)",
  "3. get_message - Value, location and placeholders of one key",
  "4. search_keys - Find defined keys by substring (paginated)",
  "5. add_message_key - Add a key to a properties file",
  "",
  "Recommended Workflow:",
  "1. Use check_placeholders to list problems",
  "2. Use get_message to read the template behind each issue",
  "3. Fix the call site arguments or the template numbering"]).toList

end MessageKeys.Agent
