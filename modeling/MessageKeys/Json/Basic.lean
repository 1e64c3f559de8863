import MessageKeys.Text.Basic

/-!
JSON values.

Objects keep their fields in the order of the text, repeated names included, and numbers keep their
digits: a reader of values decides which names and numbers it takes.
-/
namespace MessageKeys

/-- A JSON value. -/
inductive Json where
  | null
  | bool (value : Bool)
  /-- A number as it is written. -/
  | number (digits : Text)
  | string (text : Text)
  | array (items : List Json)
  | object (fields : List (Text × Json))
  deriving Repr, Inhabited

namespace Json

def ofNat (n : Nat) : Json := number (Text.ofNat n)

def ofTexts (texts : List Text) : Json := array (texts.map string)

/-- A value, or null. -/
def ofOption {α : Type} (encode : α → Json) : Option α → Json
  | none => null
  | some value => encode value

def text? : Json → Option Text
  | string text => some text
  | _ => none

def bool? : Json → Option Bool
  | bool value => some value
  | _ => none

def items? : Json → Option (List Json)
  | array items => some items
  | _ => none

/-- A natural number up to `largest`, written without sign, fraction and exponent. -/
def natUpTo? (largest : Nat) : Json → Option Nat
  | number digits =>
    if digits.all Text.isDigit ∧ Text.digitsValue digits ≤ largest then
      some (Text.digitsValue digits)
    else none
  | _ => none

/-- A list of texts. -/
def texts? (json : Json) : Option (List Text) := do (← json.items?).mapM text?

/-- The last value of a name. -/
def field? (json : Json) (name : String) : Option Json :=
  match json with
  | object fields => fields.reverse.lookup name.toList
  | _ => none

end Json

end MessageKeys
