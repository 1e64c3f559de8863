import MessageKeys.Call.Site
import MessageKeys.Regex.Match
import MessageKeys.Regex.Parser
import MessageKeys.Text.Occurrence

/-!
References to message keys in source text.

A key is referred to by a method call whose first argument is a quoted literal, possibly on a named
object, or by an annotation, which is described by a regular expression whose first group is the
key. Blanks around a key do not belong to it, and a blank key is no reference.
-/
namespace MessageKeys

open Call

/-- A key and the byte position at which it stands. -/
structure Reference where
  key : Text
  start : Nat
  deriving DecidableEq, Repr

namespace Reference

/-- Where the key stands in the source. -/
def span (reference : Reference) : Span :=
  ⟨reference.start, reference.start + Text.size reference.key⟩

/-- The reference of a literal's text at byte `start`. -/
def ofRaw? (start : Nat) (raw : Text) : Option Reference :=
  if Text.trim raw = [] then none
  else some ⟨Text.trim raw, start + Text.size (Text.blankLead raw)⟩

/-- Whether a position lies in the key or just behind it. -/
def covers (reference : Reference) (offset : Nat) : Bool :=
  reference.span.start ≤ offset && offset ≤ reference.span.stop

end Reference

/-- Reads a name, `(`, blanks and a non-empty literal in quotes of either kind; the value is what
stands before the literal's text, and the text. -/
def readKeyCall (name : Text) : Text.Reader (Text × Text) := fun text => do
  let rest ← Text.after? (name ++ ['(']) text
  let blanks := Text.blankLead rest
  match Text.trimStart rest with
  | [] => none
  | quote :: rest =>
    let key := rest.takeWhile fun c => !Quoting.isQuote c
    match rest.dropWhile fun c => !Quoting.isQuote c with
    | closing :: _ =>
      if Quoting.isQuote quote ∧ key ≠ [] then
        let before := name ++ ['('] ++ blanks ++ [quote]
        some (before ++ key ++ [closing], before, key)
      else none
    | [] => none

/-- Reads a call of a method on an object, or else on none. -/
def readReference (name : Text) : Text.Reader (Text × Text) := fun text =>
  let object := text.takeWhile isNamePart
  let onObject := do
    let rest ← Text.after? (object ++ ['.']) text
    let (taken, before, key) ← readKeyCall name rest
    if object = [] then none else
      some (object ++ ['.'] ++ taken, object ++ ['.'] ++ before, key)
  match onObject with
  | some found => some found
  | none => readKeyCall name text

/-- The references that calls of one method make. -/
def methodReferences (name : MethodName) (source : Text) : List Reference :=
  (Text.occurrences (readReference name.text) source).filterMap fun found =>
    let (before, key) := found.value
    Reference.ofRaw? (found.start + Text.size before) key

/-- The references that one annotation pattern describes. -/
def annotationReferences (pattern : Regex) (source : Text) : List Reference :=
  (pattern.findAll source).filterMap fun kept? =>
    kept?.bind fun kept => Reference.ofRaw? kept.start kept.text

/-- What refers to keys: methods and annotation patterns. -/
structure Matcher where
  methods : List MethodName
  annotations : List Regex
  deriving DecidableEq, Repr

/-- A text that is no regular expression. -/
structure InvalidAnnotation where
  pattern : Text
  deriving DecidableEq, Repr

def InvalidAnnotation.message (error : InvalidAnnotation) : Text :=
  "Invalid annotation pattern: ".toList ++ error.pattern

namespace Matcher

/-- The method that always refers to keys. -/
def implicitMethod : Text := "messageSource.getMessage".toList

/-- Compiles the annotation patterns in order. -/
def compile : List Text → Except InvalidAnnotation (List Regex)
  | [] => .ok []
  | pattern :: more =>
    match Regex.ofText? pattern with
    | none => .error ⟨pattern⟩
    | some regex => (compile more).map (regex :: ·)

/-- A matcher for methods, the implicit one being the last, and annotations. -/
def ofTexts (methods annotations : List Text) : Except InvalidAnnotation Matcher :=
  (compile annotations).map fun regexes =>
    ⟨MethodName.ofTexts (methods ++ [implicitMethod]), regexes⟩

/-- All references, method by method and then pattern by pattern, each left to right. -/
def references (m : Matcher) (source : Text) : List Reference :=
  m.methods.flatMap (methodReferences · source) ++
    m.annotations.flatMap (annotationReferences · source)

/-- The first reference whose key covers a position. -/
def referenceAt? (m : Matcher) (source : Text) (offset : Nat) : Option Reference :=
  (m.references source).find? (·.covers offset)

end Matcher

end MessageKeys
