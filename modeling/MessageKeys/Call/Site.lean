import MessageKeys.Call.ArgumentList
import MessageKeys.Call.Expression
import MessageKeys.Text.Occurrence

/-!
Calls of message methods.

A call of a method is its name, blanks, and an opening parenthesis. The first argument of a call is
its message key, the others are the values for the key's template. A call without arguments has no
key and is no call site.
-/
namespace MessageKeys.Call

/-- A method name: trimmed and not empty. -/
structure MethodName where
  text : Text
  nonempty : text ≠ []
  deriving DecidableEq, Repr

namespace MethodName

/-- The name that a text gives when it is trimmed; a blank text gives none. -/
def ofText? (text : Text) : Option MethodName :=
  if h : Text.trim text ≠ [] then some ⟨Text.trim text, h⟩ else none

/-- The names among some texts, blank ones left out. -/
def ofTexts (texts : List Text) : List MethodName := texts.filterMap ofText?

end MethodName

/-- Reads `name`, blanks and `(`. -/
def readInvocation (name : MethodName) : Text.Reader Unit := fun text => do
  let rest ← Text.after? name.text text
  let _ ← afterMark? '(' rest
  return (name.text ++ Text.blankLead rest ++ ['('], ())

/-- A method name with its opening parenthesis, at byte `start` of the source. -/
structure Invocation where
  matched : Text
  start : Nat
  deriving DecidableEq, Repr

/-- Byte position of the opening parenthesis. -/
def Invocation.openAt (call : Invocation) : Nat := call.start + Text.size call.matched - 1

/-- The method name as it was written. -/
def Invocation.written (call : Invocation) : Text :=
  Text.trimEnd (call.matched.reverse.dropWhile (· == '(')).reverse

/-- All calls of a method, left to right. -/
def invocations (name : MethodName) (source : Text) : List Invocation :=
  (Text.occurrences (readInvocation name) source).map fun found => ⟨found.taken, found.start⟩

/-- A call with its message key. -/
structure Site where
  invocation : Invocation
  key : Text
  /-- Byte position of the key in the source. -/
  keyStart : Nat
  list : ArgumentList
  /-- The arguments after the key. -/
  arguments : List Expression
  deriving Repr

/-- Where the key stands in the source. -/
def Site.keySpan (site : Site) : Span := ⟨site.keyStart, site.keyStart + Text.size site.key⟩

/-- A text without one double quote at its beginning and one at its end, and the number of bytes
taken from its beginning. -/
def unquote (text : Text) : Text × Nat :=
  match text with
  | '"' :: rest => (Text.dropTail ['"'] rest, 1)
  | _ => (Text.dropTail ['"'] text, 0)

/-- The call site of a call, if it has arguments. -/
def Site.ofInvocation? (source : Text) (invocation : Invocation) : Option Site :=
  (ArgumentList.extract? source invocation.openAt).bind fun list =>
    match expressions list.text with
    | [] => none
    | first :: arguments =>
      let (key, skipped) := unquote first.text
      some { invocation, key, keyStart := list.offset + first.offset + skipped, list, arguments }

/-- The call sites of all methods, method by method. -/
def sites (source : Text) (methods : List MethodName) : List Site :=
  methods.flatMap fun method => (invocations method source).filterMap (Site.ofInvocation? source)

end MessageKeys.Call
