import MessageKeys.Json.Basic

/-!
Reading JSON.

The reader is strict: no comments, no trailing commas, no leading zeros, no raw control characters
in strings and nothing but blanks around the value. Surrogates stand in pairs, except in what is
read loosely: there a surrogate of its own is a character that cannot be told, since the value is
not looked at. Each reader returns the text that it leaves; the depth of nesting is bounded by
`fuel`, for which the length of the text is enough.
-/
namespace MessageKeys.Json

/-- One of the four blanks of JSON. -/
def isSpace (c : Char) : Bool := c == ' ' || c == '\n' || c == '\r' || c == '\t'

def skipSpace (text : Text) : Text := text.dropWhile isSpace

/-- The number that the first four characters write. -/
def readUnit? : Text → Option Nat
  | a :: b :: c :: d :: _ => do
    let high := (← Text.hexValue? a) * 16 + (← Text.hexValue? b)
    let low := (← Text.hexValue? c) * 16 + (← Text.hexValue? d)
    return high * 256 + low
  | _ => none

/-- A unit that begins a surrogate pair. -/
def isHighSurrogate (unit : Nat) : Bool := 0xD800 ≤ unit && unit < 0xDC00

/-- A unit that ends a surrogate pair. -/
def isLowSurrogate (unit : Nat) : Bool := 0xDC00 ≤ unit && unit < 0xE000

/-- The unit that ends a surrogate pair, if it is written next. -/
def readLowSurrogate? (text : Text) : Option Nat := do
  let unit ← readUnit? (← Text.after? ['\\', 'u'] text)
  if isLowSurrogate unit then return unit else none

/-- Stands for a surrogate of its own. -/
def unknownChar : Char := Char.ofNat 0xFFFD

/-- Reads a character given by units; `text` stands after `\u`. Returns the character, and how many
characters write it. -/
def readUnits? (loose : Bool) (text : Text) : Option (Char × Nat) := do
  let first ← readUnit? text
  match isHighSurrogate first, readLowSurrogate? (text.drop 4) with
  | true, some second =>
    return (Char.ofNat (0x10000 + (first - 0xD800) * 0x400 + (second - 0xDC00)), 10)
  | high, _ =>
    if !(high || isLowSurrogate first) then return (Char.ofNat first, 4)
    else if loose then return (unknownChar, 4)
    else none

/-- Reads what stands after a backslash: the character, and how many characters write it. -/
def readEscape? (loose : Bool) : Text → Option (Char × Nat)
  | '"' :: _ => some ('"', 1)
  | '\\' :: _ => some ('\\', 1)
  | '/' :: _ => some ('/', 1)
  | 'b' :: _ => some ('\x08', 1)
  | 'f' :: _ => some ('\x0c', 1)
  | 'n' :: _ => some ('\n', 1)
  | 'r' :: _ => some ('\r', 1)
  | 't' :: _ => some ('\t', 1)
  | 'u' :: rest => (readUnits? loose rest).map fun (c, n) => (c, n + 1)
  | _ => none

/-- Reads a string to its closing quote; the first `skip` characters have been read. -/
def readString? (loose : Bool) (skip : Nat) : Text → Option (Text × Text)
  | [] => none
  | c :: rest =>
    match skip with
    | later + 1 => readString? loose later rest
    | 0 =>
      if c = '"' then some ([], rest)
      else if c = '\\' then
        match readEscape? loose rest with
        | some (value, n) =>
          (readString? loose n rest).map fun (text, left) => (value :: text, left)
        | none => none
      else if c.toNat < 0x20 then none
      else (readString? loose 0 rest).map fun (text, left) => (c :: text, left)

/-- Reads digits, at least one. -/
def readDigits? (text : Text) : Option (Text × Text) :=
  let digits := text.takeWhile Text.isDigit
  if digits = [] then none else some (digits, text.dropWhile Text.isDigit)

/-- Reads digits without a zero in front of others. -/
def readWhole? (text : Text) : Option (Text × Text) :=
  match text with
  | '0' :: rest => some (['0'], rest)
  | _ => readDigits? text

/-- Reads a fraction if there is one. -/
def readFraction? (text : Text) : Option (Text × Text) :=
  match text with
  | '.' :: rest => (readDigits? rest).map fun (digits, left) => ('.' :: digits, left)
  | _ => some ([], text)

/-- Reads an exponent if there is one. -/
def readExponent? (text : Text) : Option (Text × Text) :=
  match text with
  | mark :: rest =>
    if mark = 'e' ∨ mark = 'E' then
      let sign := rest.take 1 |>.filter fun c => c == '+' || c == '-'
      (readDigits? (rest.drop sign.length)).map fun (digits, left) => (mark :: sign ++ digits, left)
    else some ([], text)
  | [] => some ([], [])

/-- Reads a number. -/
def readNumber? (text : Text) : Option (Json × Text) := do
  let sign := text.take 1 |>.filter (· == '-')
  let (whole, rest) ← readWhole? (text.drop sign.length)
  let (fraction, rest) ← readFraction? rest
  let (exponent, rest) ← readExponent? rest
  return (.number (sign ++ whole ++ fraction ++ exponent), rest)

mutual

/-- Reads a value after blanks. If it is an object, the values of the names that are not `known` are
read loosely. -/
def readValue? (loose : Bool) (known : Text → Bool) : Nat → Text → Option (Json × Text)
  | 0, _ => none
  | fuel + 1, text =>
    match skipSpace text with
    | '"' :: rest => (readString? loose 0 rest).map fun (text, left) => (.string text, left)
    | '[' :: rest =>
      match skipSpace rest with
      | ']' :: left => some (.array [], left)
      | _ => (readItems? loose fuel rest).map fun (items, left) => (.array items, left)
    | '{' :: rest =>
      match skipSpace rest with
      | '}' :: left => some (.object [], left)
      | _ => (readFields? loose known fuel rest).map fun (fields, left) => (.object fields, left)
    | start =>
      match Text.after? "null".toList start, Text.after? "true".toList start,
          Text.after? "false".toList start with
      | some left, _, _ => some (.null, left)
      | _, some left, _ => some (.bool true, left)
      | _, _, some left => some (.bool false, left)
      | _, _, _ => readNumber? start

/-- Reads the items of an array and its closing bracket. -/
def readItems? (loose : Bool) : Nat → Text → Option (List Json × Text)
  | 0, _ => none
  | fuel + 1, text =>
    match readValue? loose (fun _ => true) fuel text with
    | none => none
    | some (item, rest) =>
      match skipSpace rest with
      | ']' :: left => some ([item], left)
      | ',' :: more => (readItems? loose fuel more).map fun (items, left) => (item :: items, left)
      | _ => none

/-- Reads the fields of an object and its closing brace. -/
def readFields? (loose : Bool) (known : Text → Bool) :
    Nat → Text → Option (List (Text × Json) × Text)
  | 0, _ => none
  | fuel + 1, text =>
    match skipSpace text with
    | '"' :: rest =>
      match readString? loose 0 rest with
      | none => none
      | some (name, rest) =>
        match skipSpace rest with
        | ':' :: rest =>
          match readValue? (loose || !known name) (fun _ => true) fuel rest with
          | none => none
          | some (value, rest) =>
            match skipSpace rest with
            | '}' :: left => some ([(name, value)], left)
            | ',' :: more =>
              (readFields? loose known fuel more).map fun (fields, left) =>
                ((name, value) :: fields, left)
            | _ => none
        | _ => none
    | _ => none

end

/-- The value that a text writes, if it writes one. If it is an object, the values of the names that
are not `known` are read loosely. -/
def parseKnown? (known : Text → Bool) (text : Text) : Option Json :=
  match readValue? false known (text.length + 1) text with
  | some (json, rest) => if skipSpace rest = [] then some json else none
  | none => none

/-- The value that a text writes, if it writes one. -/
def parse? (text : Text) : Option Json := parseKnown? (fun _ => true) text

end MessageKeys.Json
