import MessageKeys.Reference
import MessageKeys.Regex.Escape
import MessageKeys.Regex.Size

/-!
The automata that find calls of a method.

The references that a method makes are found by an expression too: an object and a dot, which may be
missing, the method's name, an opening parenthesis, blanks, and a literal in quotes, which is kept.
Its automaton may not take more memory than that of any other expression. A name takes one state for
each of its bytes, so a name is refused when it is too long, and only then.
-/
namespace MessageKeys

namespace Regex

/-- The characters that names of objects consist of. -/
def objectPart : CodeRanges := (0x24, 0x24) :: words

def quotes : CodeRanges := [(0x22, 0x22), (0x27, 0x27)]

/-- All characters but quotes. -/
def unquoted : CodeRanges := [(0, 0x21), (0x23, 0x26), (0x28, 0xD7FF), (0xE000, 0x10FFFF)]

/-- What may stand in front of a method's name. -/
def object : Regex :=
  repeated (seq (repeated (char objectPart) 1 none true) (char (.single 0x2E))) 0 (some 1) true

/-- What stands behind a method's name, up to the quote that ends the key. -/
def keyArgument : Regex :=
  seq (char (.single 0x28)) <| seq (repeated (char blanks) 0 none true) <| seq (char quotes) <|
    seq (group 1 (repeated (char unquoted) 1 none true)) (char quotes)

/-- The automaton that finds calls of a method whose name has so many bytes. Backward, the parts are
read in the opposite order, and groups take no states. -/
def callAutomaton? (direction : Direction) (nameSize : Nat) : Option Layout := do
  let layout ← (← (← Layout.start.addStates? 2).addRanges? 1).addWays? 2
  match direction with
  | .forward =>
    let layout ← object.layout? .forward (← layout.addStates? 1)
    let layout ← keyArgument.layout? .forward (← layout.addStates? nameSize)
    layout.addStates? 2
  | .backward =>
    let layout ← keyArgument.layout? .backward layout
    let layout ← object.layout? .backward (← layout.addStates? nameSize)
    layout.addStates? 1

end Regex

/-- The bytes that a name may have in any case. Longer ones are measured. -/
def shortName : Nat := 65536

/-- Whether the automata for calls of a method are small enough in both directions. -/
def Call.MethodName.fits (name : MethodName) : Bool :=
  let nameSize := Text.size name.text
  nameSize ≤ shortName ||
    (Regex.callAutomaton? .forward nameSize).isSome &&
      (Regex.callAutomaton? .backward nameSize).isSome

/-- A method whose name is too long, as it is given. -/
structure InvalidMethod where
  name : Text
  deriving DecidableEq, Repr

namespace InvalidMethod

def message (error : InvalidMethod) : Text := "Invalid method pattern: ".toList ++ error.name

def cause (_ : InvalidMethod) : Text :=
  "Compiled regex exceeds size limit of ".toList ++ Text.ofNat Regex.sizeLimit ++ " bytes.".toList

end InvalidMethod

/-- What cannot be made into a matcher. -/
inductive InvalidPattern where
  | method (error : InvalidMethod)
  | expression (error : InvalidAnnotation)
  deriving DecidableEq, Repr

namespace InvalidPattern

def message : InvalidPattern → Text
  | method error => error.message
  | expression error => error.message

/-- What lies behind an error, where that can be told. -/
def cause? : InvalidPattern → Option Text
  | method error => some error.cause
  | expression _ => none

end InvalidPattern

namespace Matcher

/-- Refuses the first method whose name is too long. -/
def checkMethods : List Text → Except InvalidMethod Unit
  | [] => .ok ()
  | text :: more =>
    if (Call.MethodName.ofText? text).all (·.fits) then checkMethods more else .error ⟨text⟩

/-- A matcher for methods and annotations, if all of them can be matched. -/
def ofPatterns (methods annotations : List Text) : Except InvalidPattern Matcher :=
  match checkMethods (methods ++ [implicitMethod]) with
  | .error error => .error (.method error)
  | .ok () => (ofTexts methods annotations).mapError .expression

end Matcher

end MessageKeys
