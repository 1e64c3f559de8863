import MessageKeys.Text.CodeRanges

/-!
Ranges of characters as ranges of bytes.

The UTF-8 encodings of a range of characters are covered by sequences of byte ranges: an encoding
belongs to a sequence when each of its bytes lies in the range at the same place.
`CodeRanges.encoded` lists the sequences of a set in increasing order; no encoding belongs to two of
them.
-/
namespace MessageKeys.Text

/-- One range for each byte of an encoding. -/
abbrev ByteRanges := List (Nat × Nat)

/-- The number of values that so many continuation bytes write. -/
def blockSize : Nat → Nat
  | 0 => 1
  | n + 1 => 64 * blockSize n

/-- The sequences for the values from `low` to `high`, which a first byte of `lead` and more and
`behind` continuation bytes write. The values with one first byte form a block: a range that has
only a part of a block at either end is cut there. -/
def byteRanges (lead : Nat) : (behind low high : Nat) → List ByteRanges
  | 0, low, high => [[(lead + low, lead + high)]]
  | behind + 1, low, high =>
    let block := blockSize (behind + 1)
    let part (first low high : Nat) :=
      (byteRanges 0x80 behind low high).map ((lead + first, lead + first) :: ·)
    if low / block = high / block then part (low / block) (low % block) (high % block)
    else
      let cutLow := low % block != 0
      let cutHigh := high % block != block - 1
      let first := if cutLow then low / block + 1 else low / block
      let last := if cutHigh then high / block - 1 else high / block
      (if cutLow then part (low / block) (low % block) (block - 1) else []) ++
        (if first ≤ last then
          [(lead + first, lead + last) :: List.replicate (behind + 1) (0x80, 0xBF)]
        else []) ++
        (if cutHigh then part (high / block) 0 (high % block) else [])

/-- The values that are written with each number of bytes: the first and the last of them, the first
byte's lead and the number of continuation bytes. -/
def encodingLengths : List (Nat × Nat × Nat × Nat) :=
  [(0, 0x7F, 0, 0), (0x80, 0x7FF, 0xC0, 1), (0x800, 0xD7FF, 0xE0, 2), (0xE000, 0xFFFF, 0xE0, 2),
   (0x10000, 0x10FFFF, 0xF0, 3)]

end MessageKeys.Text

/-- The sequences of byte ranges that cover a set of characters, in increasing order. -/
def MessageKeys.CodeRanges.encoded (set : CodeRanges) : List Text.ByteRanges :=
  set.flatMap fun (low, high) =>
    Text.encodingLengths.flatMap fun (first, last, lead, behind) =>
      if max low first ≤ min high last then
        Text.byteRanges lead behind (max low first) (min high last)
      else []
