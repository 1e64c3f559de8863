import MessageKeys.Agent.Page
import MessageKeys.Path

/-!
Requests of an agent.

A request names a tool and gives its parameters as a JSON object; parameters of other names are
passed over. An array of values is taken for all parameters in their order. Optional parameters may
be null or missing.
-/
namespace MessageKeys.Agent

/-- The tools that an agent can use. -/
inductive Tool where
  | getConfig
  | checkPlaceholders
  | getMessage
  | searchKeys
  | addMessageKey
  deriving DecidableEq, Repr

namespace Tool

def name : Tool → Text
  | getConfig => "get_config".toList
  | checkPlaceholders => "check_placeholders".toList
  | getMessage => "get_message".toList
  | searchKeys => "search_keys".toList
  | addMessageKey => "add_message_key".toList

def all : List Tool := [getConfig, checkPlaceholders, getMessage, searchKeys, addMessageKey]

def ofName? (text : Text) : Option Tool := all.find? fun tool => tool.name == text

/-- The parameters of a tool, in their order. -/
def parameters : Tool → List String
  | getConfig => ["projectRootPath"]
  | checkPlaceholders => ["projectRootPath", "limit", "offset"]
  | getMessage => ["projectRootPath", "key"]
  | searchKeys => ["projectRootPath", "filter", "limit", "offset"]
  | addMessageKey => ["projectRootPath", "key", "value", "filePath"]

end Tool

/-- What an agent asks for. -/
inductive Request where
  | getConfig (root : Path)
  | checkPlaceholders (root : Path) (page : PageRequest)
  | getMessage (root : Path) (key : Text)
  | searchKeys (root : Path) (filter? : Option Text) (page : PageRequest)
  | addMessageKey (root : Path) (key value : Text) (file? : Option Path)
  deriving DecidableEq, Repr

namespace Request

/-- An array of all parameters as an object. -/
def named (names : List String) : Json → Option Json
  | .object fields => some (.object fields)
  | .array items =>
    if items.length = names.length then some (.object ((names.map String.toList).zip items))
    else none
  | _ => none

/-- A parameter that has to be given. -/
def required {α : Type} (decode : Json → Option α) (fields : Json) (name : String) : Option α := do
  decode (← fields.field? name)

/-- A parameter that may be null or missing. -/
def optional {α : Type} (decode : Json → Option α) (fields : Json) (name : String) :
    Option (Option α) :=
  match fields.field? name with
  | none => some none
  | some .null => some none
  | some value => (decode value).map some

/-- The largest number that a page can be asked for with. -/
def largestNumber : Nat := 4294967295

/-- The page that parameters ask for. -/
def page? (fields : Json) : Option PageRequest := do
  return ⟨← optional (Json.natUpTo? largestNumber) fields "limit",
    ← optional (Json.natUpTo? largestNumber) fields "offset"⟩

/-- The request that parameters make of a tool. -/
def ofJson? (tool : Tool) (parameters : Json) : Option Request := do
  let fields ← named tool.parameters parameters
  let root ← required Json.text? fields "projectRootPath"
  match tool with
  | .getConfig => return .getConfig root
  | .checkPlaceholders => return .checkPlaceholders root (← page? fields)
  | .getMessage => return .getMessage root (← required Json.text? fields "key")
  | .searchKeys => return .searchKeys root (← optional Json.text? fields "filter") (← page? fields)
  | .addMessageKey =>
    let key ← required Json.text? fields "key"
    let value ← ((fields.field? "value").getD (.string [])).text?
    return .addMessageKey root key value (← optional Json.text? fields "filePath")

end Request

end MessageKeys.Agent
