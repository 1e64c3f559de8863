import MessageKeys.Call.Expression

/-!
How many values a call supplies.

The count goes by shapes only. A lone array initializer supplies its elements, and a lone `join`
call, or one as the only element, supplies whatever is expected. Of several arguments a bare
identifier at the end may be the exception that is logged with the message, and is then not counted.
-/
namespace MessageKeys.Call

namespace Expression

/-- Whether nothing but blanks was written. -/
def isEmpty (argument : Expression) : Bool := (Text.trim argument.text).isEmpty

end Expression

/-- Number of arguments that are not empty. -/
def countFilled (arguments : List Expression) : Nat :=
  arguments.countP fun argument => !argument.isEmpty

/-- Values that a single argument supplies. -/
def suppliedByOne (expected : Nat) (argument : Expression) : Nat :=
  match argument.shape with
  | .arrayLiteral [element] => if element.shape.isJoin then expected else countFilled [element]
  | .arrayLiteral elements => countFilled elements
  | shape => if shape.isJoin then expected else 1

/-- Whether an identifier that ends a list of `preceding + 1` arguments, the one before it being
`before`, is taken for an exception. -/
def isTrailingException (expected preceding : Nat) (before : Expression) : Bool :=
  before.shape.isArrayLiteral ||
    (!before.shape.isJoin && (2 ≤ preceding || (preceding == 1 && expected == 1)))

/-- The arguments without an exception at the end. -/
def withoutException (expected : Nat) (arguments : List Expression) : List Expression :=
  match arguments.reverse with
  | last :: before :: _ =>
    if last.shape.isIdentifier && isTrailingException expected (arguments.length - 1) before then
      arguments.dropLast
    else arguments
  | _ => arguments

/-- Number of values that arguments supply to a template which expects `expected`. -/
def supplied (expected : Nat) : List Expression → Nat
  | [] => 0
  | [only] => if only.isEmpty then 0 else suppliedByOne expected only
  | arguments => countFilled (withoutException expected arguments)

end MessageKeys.Call
