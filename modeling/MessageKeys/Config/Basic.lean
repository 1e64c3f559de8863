import MessageKeys.Glob.Pattern
import MessageKeys.Json.Parser
import MessageKeys.Json.Printer
import MessageKeys.Regex.Parser

/-!
The configuration of a project.

The configuration file is a JSON object; every field has a default, fields of other names are passed
over, and a field given twice or with a value of another type makes the file malformed. An array is
taken for the fields in their order. A configuration is valid if its globs are patterns and its
annotation patterns are regular expressions; includes without wildcards are directories and need not
be patterns.
-/
namespace MessageKeys

/-- The configuration of a project. -/
structure Config where
  /-- Methods whose calls are checked. -/
  methods : List Text
  /-- Regular expressions for annotations that refer to keys. -/
  annotations : List Text
  /-- Where properties files are found. -/
  propertyFileGlobs : List Text
  /-- Where source files are found. -/
  sourceRoot : Text
  includes : List Text
  ignores : List Text
  /-- Whether directories of build output and the like are passed over. -/
  ignoreBuildDirs : Bool
  deriving DecidableEq, Repr

namespace Config

/-- The configuration of a project that has none. -/
def default : Config where
  methods := []
  annotations := []
  propertyFileGlobs := ["**/src/main/resources/**/*.properties".toList]
  sourceRoot := "./".toList
  includes := []
  ignores := []
  ignoreBuildDirs := true

/-- The names of the fields in a configuration file, in their order. -/
def fieldNames : List Text :=
  ["messageKeyExtractionPatterns".toList, "annotationKeyExtractionPatterns".toList,
    "propertyFileGlobs".toList, "sourceRoot".toList, "includes".toList, "ignores".toList,
    "ignoreBuildDirs".toList]

/-- The value at a position of the fields, or the default where there is none. -/
def fieldAt? {α : Type} (values : List (Option Json)) (position : Nat) (decode : Json → Option α)
    (default : α) : Option α :=
  match values[position]? with
  | some (some json) => decode json
  | _ => some default

/-- A configuration from the values of its fields in their order. -/
def ofValues? (values : List (Option Json)) : Option Config := do
  return {
    methods := ← fieldAt? values 0 Json.texts? default.methods
    annotations := ← fieldAt? values 1 Json.texts? default.annotations
    propertyFileGlobs := ← fieldAt? values 2 Json.texts? default.propertyFileGlobs
    sourceRoot := ← fieldAt? values 3 Json.text? default.sourceRoot
    includes := ← fieldAt? values 4 Json.texts? default.includes
    ignores := ← fieldAt? values 5 Json.texts? default.ignores
    ignoreBuildDirs := ← fieldAt? values 6 Json.bool? default.ignoreBuildDirs }

/-- The value of a name that is given at most once. -/
def unique? (fields : List (Text × Json)) (name : Text) : Option (Option Json) :=
  match fields.filter (·.1 == name) with
  | [] => some none
  | [(_, value)] => some (some value)
  | _ => none

/-- The configuration that a JSON value describes. -/
def ofJson? : Json → Option Config
  | .object fields => do ofValues? (← fieldNames.mapM (unique? fields))
  | .array items => if items.length ≤ fieldNames.length then ofValues? (items.map some) else none
  | _ => none

/-- The configuration that the text of a configuration file describes. What stands in fields of
other names is not looked at, so it is read loosely. -/
def ofText? (text : Text) : Option Config :=
  (Json.parseKnown? (fieldNames.contains ·) text).bind ofJson?

/-- The values of the fields in their order. -/
def values (config : Config) : List Json :=
  [.ofTexts config.methods, .ofTexts config.annotations, .ofTexts config.propertyFileGlobs,
    .string config.sourceRoot, .ofTexts config.includes, .ofTexts config.ignores,
    .bool config.ignoreBuildDirs]

/-- The configuration as a JSON object with all its fields. -/
def toJson (config : Config) : Json := .object (fieldNames.zip config.values)

/-- The text of a configuration file with the defaults. -/
def defaultText : Text := default.toJson.pretty

/-- What makes a configuration invalid. -/
inductive Fault where
  | ignore (pattern : Text) (cause : GlobError)
  | inclusion (pattern : Text) (cause : GlobError)
  | propertyFileGlob (pattern : Text) (cause : GlobError)
  | annotationPattern (pattern : Text)
  deriving DecidableEq, Repr

namespace Fault

/-- The field and the pattern at fault. -/
def message : Fault → Text
  | ignore pattern _ => describe "Invalid glob pattern in 'ignores'" pattern
  | inclusion pattern _ => describe "Invalid glob pattern in 'includes'" pattern
  | propertyFileGlob pattern _ => describe "Invalid glob pattern in 'propertyFileGlobs'" pattern
  | annotationPattern pattern =>
    describe "Invalid regex in 'annotationKeyExtractionPatterns'" pattern
where
  describe (what : String) (pattern : Text) : Text :=
    what.toList ++ ": \"".toList ++ pattern ++ ['"']

/-- Why a pattern is at fault, where that can be told. -/
def cause? : Fault → Option Text
  | ignore _ cause => some cause.message
  | inclusion _ cause => some cause.message
  | propertyFileGlob _ cause => some cause.message
  | annotationPattern _ => none

end Fault

/-- Refuses the first text that is no pattern. -/
def checkGlobs (fault : Text → GlobError → Fault) : List Text → Except Fault Unit
  | [] => .ok ()
  | pattern :: more =>
    match GlobPattern.ofText pattern with
    | .error cause => .error (fault pattern cause)
    | .ok _ => checkGlobs fault more

/-- Refuses the first text that is no regular expression. -/
def checkAnnotations : List Text → Except Fault Unit
  | [] => .ok ()
  | pattern :: more =>
    match Regex.ofText? pattern with
    | none => .error (.annotationPattern pattern)
    | some _ => checkAnnotations more

/-- Refuses a configuration that is not valid. -/
def validate (config : Config) : Except Fault Unit := do
  checkGlobs .ignore config.ignores
  checkGlobs .inclusion (config.includes.filter GlobPattern.hasWildcard)
  checkGlobs .propertyFileGlob config.propertyFileGlobs
  checkAnnotations config.annotations

end Config

end MessageKeys
