import MessageKeys.Text.Basic

/-!
The argument list of a call.

From a call's opening parenthesis on, parentheses are counted, whether or not they stand in
literals, up to the one that brings the count back to zero. A list that is never closed runs to the
end of the text and is marked unbalanced. A list can be asked for at any position, though behind the
largest 64-bit word there is no further one, and the computation of it fails.
-/
namespace MessageKeys.Call

/-- The text between a call's parentheses. -/
structure ArgumentList where
  text : Text
  /-- Byte position of `text` in the source. -/
  offset : Nat
  /-- Whether the closing parenthesis was found. -/
  balanced : Bool
  deriving DecidableEq, Repr

/-- The text before the parenthesis that closes a list which `depth` further lists stand in. -/
def beforeClose? (depth : Nat) : Text → Option Text
  | [] => none
  | c :: rest =>
    if c = '(' then (beforeClose? (depth + 1) rest).map (c :: ·)
    else if c = ')' then
      match depth with
      | 0 => some []
      | outer + 1 => (beforeClose? outer rest).map (c :: ·)
    else (beforeClose? depth rest).map (c :: ·)

/-- The position after `n`, if a 64-bit word holds it. -/
def wordSucc? (n : Nat) : Option Nat := if n < Text.wordMax then some (n + 1) else none

/-- The list whose opening parenthesis stands at byte `openAt`. Where none stands there, the list is
empty and unbalanced, and stands at the next position or at the end of the source; the next position
must fit a word, or else there is no result. Behind a parenthesis of a source it always fits. -/
def ArgumentList.extract? (source : Text) (openAt : Nat) : Option ArgumentList :=
  match Text.dropBytes? source openAt with
  | some ('(' :: rest) =>
    match beforeClose? 0 rest with
    | some list => some ⟨list, openAt + 1, true⟩
    | none => some ⟨rest, openAt + 1, false⟩
  | _ => (wordSucc? openAt).map fun next => ⟨[], min next (Text.size source), false⟩

end MessageKeys.Call
