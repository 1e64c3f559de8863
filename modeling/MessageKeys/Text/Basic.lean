/-!
Texts and positions in them.

A text is the list of its characters, and a position in it is a number of bytes of its UTF-8
encoding. `Text.size` is that measure. `dropBytes?` and `takeBytes?` cut at a position and refuse
one that lies inside a character or past the end, so every cut that succeeds is a cut between two
characters: `takeBytes?_append` and `dropBytes?_append` say so.
-/
namespace MessageKeys

/-- A text is the list of its characters. -/
abbrev Text := List Char

/-- A half-open range of byte positions. -/
structure Span where
  start : Nat
  stop : Nat
  deriving DecidableEq, Repr

namespace Text

/-- Number of bytes of the UTF-8 encoding. -/
def size : Text → Nat
  | [] => 0
  | c :: rest => c.utf8Size + size rest

@[simp] theorem size_nil : size [] = 0 := rfl

@[simp] theorem size_cons (c : Char) (rest : Text) :
    size (c :: rest) = c.utf8Size + size rest := rfl

@[simp] theorem size_append (a b : Text) : size (a ++ b) = size a + size b := by
  induction a with
  | nil => simp
  | cons c rest ih => simp [ih, Nat.add_assoc]

/-- What stands after the first `n` bytes, if a character ends there. -/
def dropBytes? : Text → Nat → Option Text
  | text, 0 => some text
  | [], _ + 1 => none
  | c :: rest, n + 1 =>
    if c.utf8Size ≤ n + 1 then dropBytes? rest (n + 1 - c.utf8Size) else none

/-- The first `n` bytes, if a character ends there. -/
def takeBytes? : Text → Nat → Option Text
  | _, 0 => some []
  | [], _ + 1 => none
  | c :: rest, n + 1 =>
    if c.utf8Size ≤ n + 1 then (takeBytes? rest (n + 1 - c.utf8Size)).map (c :: ·) else none

@[simp] theorem dropBytes?_zero (text : Text) : dropBytes? text 0 = some text := by
  cases text <;> rfl

@[simp] theorem takeBytes?_zero (text : Text) : takeBytes? text 0 = some [] := by
  cases text <;> rfl

theorem dropBytes?_append (a b : Text) : dropBytes? (a ++ b) (size a) = some b := by
  induction a with
  | nil => simp
  | cons c rest ih =>
    have positive := c.utf8Size_pos
    obtain ⟨n, total⟩ : ∃ n, c.utf8Size + size rest = n + 1 :=
      ⟨_, (Nat.sub_one_add_one (by omega)).symm⟩
    have left : n + 1 - c.utf8Size = size rest := by omega
    simp only [List.cons_append, size_cons, total, dropBytes?, left, ih]
    rw [if_pos (by omega)]

theorem takeBytes?_append (a b : Text) : takeBytes? (a ++ b) (size a) = some a := by
  induction a with
  | nil => simp
  | cons c rest ih =>
    have positive := c.utf8Size_pos
    obtain ⟨n, total⟩ : ∃ n, c.utf8Size + size rest = n + 1 :=
      ⟨_, (Nat.sub_one_add_one (by omega)).symm⟩
    have left : n + 1 - c.utf8Size = size rest := by omega
    simp only [List.cons_append, size_cons, total, takeBytes?, left, ih]
    rw [if_pos (by omega)]
    rfl

/-- The text between two positions, if both lie between characters and in order. -/
def slice? (text : Text) (start stop : Nat) : Option Text :=
  if start ≤ stop then
    (dropBytes? text start).bind fun rest => takeBytes? rest (stop - start)
  else none

/-- The text left after `lead`, if the text begins with it. -/
def after? : (lead text : Text) → Option Text
  | [], text => some text
  | _ :: _, [] => none
  | a :: lead, c :: text => if a = c then after? lead text else none

theorem after?_eq_some_iff {lead text rest : Text} :
    after? lead text = some rest ↔ text = lead ++ rest := by
  fun_induction after? lead text with
  | case1 text => simp [eq_comm]
  | case2 => simp
  | case3 lead c text ih => simpa using ih
  | case4 a lead c text different => simp [Ne.symm different]

/-- The text without `tail`, if the text ends with it. -/
def before? (tail text : Text) : Option Text :=
  (after? tail.reverse text.reverse).map List.reverse

/-- The text without one final `tail`, or unchanged. -/
def dropTail (tail text : Text) : Text := (before? tail text).getD text

/-- Whether `part` stands somewhere in the text. -/
def hasPart (part : Text) : Text → Bool
  | [] => part.isEmpty
  | c :: rest => part.isPrefixOf (c :: rest) || hasPart part rest

/-- The texts before and after the first `mark`. -/
def cutFirst? (mark : Char) : Text → Option (Text × Text)
  | [] => none
  | c :: rest =>
    if c = mark then some ([], rest)
    else (cutFirst? mark rest).map fun (before, after) => (c :: before, after)

/-- The texts before and after the last `mark`. -/
def cutLast? (mark : Char) (text : Text) : Option (Text × Text) :=
  (cutFirst? mark text.reverse).map fun (after, before) => (before.reverse, after.reverse)

/-- The texts with `separator` between each two of them. -/
def join (separator : Text) : List Text → Text
  | [] => []
  | [last] => last
  | first :: second :: more => first ++ separator ++ join separator (second :: more)

/-- Decimal digits of a number. -/
def ofNat (n : Nat) : Text := Nat.toDigits 10 n

/-- One of the ten digits `0` to `9`. -/
def isDigit (c : Char) : Bool := '0' ≤ c && c ≤ '9'

/-- The number that decimal digits write. -/
def digitsValue (digits : Text) : Nat :=
  digits.foldl (fun value c => 10 * value + (c.toNat - '0'.toNat)) 0

/-- The value of a hexadecimal digit. -/
def hexValue? (c : Char) : Option Nat :=
  if isDigit c then some (c.toNat - '0'.toNat)
  else if 'a' ≤ c ∧ c ≤ 'f' then some (c.toNat - 'a'.toNat + 10)
  else if 'A' ≤ c ∧ c ≤ 'F' then some (c.toNat - 'A'.toNat + 10)
  else none

/-- The largest number that a 64-bit word holds. -/
def wordMax : Nat := 18446744073709551615

/-- Reads digits after an optional `+`. Signs of other kinds, other characters, no digit at all and
numbers that do not fit 64 bits are refused. -/
def parseNat? (text : Text) : Option Nat :=
  let digits := (after? ['+'] text).getD text
  if digits ≠ [] ∧ digits.all isDigit ∧ digitsValue digits ≤ wordMax then some (digitsValue digits)
  else none

/-- The text with blanks before it, so that it has at least `width` characters. -/
def padLeft (width : Nat) (text : Text) : Text :=
  List.replicate (width - text.length) ' ' ++ text

/-- Whether one text comes before another or equals it, by code points. -/
def le (a b : Text) : Bool := (compare a b).isLE

end Text

end MessageKeys
