import MessageKeys.Text.Basic

/-!
Reading texts from bytes.

Bytes are read by the rules of UTF-8: no overlong forms, no surrogates, nothing beyond the last code
point. What is no character is passed over in the longest pieces that begin one.
-/
namespace MessageKeys.Text

/-- A byte that continues a character. -/
def isTail (byte : UInt8) : Bool := 0x80 ≤ byte && byte ≤ 0xBF

/-- The bytes that may follow a leading byte: how many, and the range of the first of them. -/
def leadRange? (lead : UInt8) : Option (Nat × UInt8 × UInt8) :=
  if 0xC2 ≤ lead ∧ lead ≤ 0xDF then some (1, 0x80, 0xBF)
  else if lead = 0xE0 then some (2, 0xA0, 0xBF)
  else if lead = 0xED then some (2, 0x80, 0x9F)
  else if 0xE1 ≤ lead ∧ lead ≤ 0xEF then some (2, 0x80, 0xBF)
  else if lead = 0xF0 then some (3, 0x90, 0xBF)
  else if 0xF1 ≤ lead ∧ lead ≤ 0xF3 then some (3, 0x80, 0xBF)
  else if lead = 0xF4 then some (3, 0x80, 0x8F)
  else none

/-- The code point that a leading byte and its tail write. -/
def codePoint (lead : UInt8) (tail : List UInt8) : Nat :=
  let bits := match tail.length with
    | 1 => 32
    | 2 => 16
    | _ => 8
  tail.foldl (fun value byte => 64 * value + byte.toNat % 64) (lead.toNat % bits)

/-- Reads a character and returns it, or `none` for a malformed one, with the number of bytes behind
the leading byte that belong to it. -/
def readChar (lead : UInt8) (rest : List UInt8) : Option Char × Nat :=
  if lead < 0x80 then (some (Char.ofNat lead.toNat), 0)
  else
    match leadRange? lead, rest with
    | some (count, low, high), first :: more =>
      if low ≤ first ∧ first ≤ high then
        let tail := first :: (more.take (count - 1)).takeWhile isTail
        if tail.length = count then (some (Char.ofNat (codePoint lead tail)), count)
        else (none, tail.length)
      else (none, 0)
    | _, _ => (none, 0)

/-- The characters of bytes whose first `skip` have been read, malformed ones as `none`. -/
def readChars (skip : Nat) : List UInt8 → List (Option Char)
  | [] => []
  | byte :: rest =>
    match skip with
    | later + 1 => readChars later rest
    | 0 =>
      let (c?, taken) := readChar byte rest
      c? :: readChars taken rest

/-- The text that bytes encode, if they encode one. -/
def decode? (bytes : List UInt8) : Option Text := (readChars 0 bytes).mapM id

end MessageKeys.Text
