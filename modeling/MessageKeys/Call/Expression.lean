import MessageKeys.Call.Argument
import MessageKeys.Call.Name

/-!
The shapes of argument expressions.

An argument is classified by its shape alone, without types: a string literal, an array initializer
with its elements, an expression that ends in a member call, a bare identifier, or anything else, in
this order. The elements of an initializer are arguments again, cut from the text between its
braces; that text is shorter than the argument, so the classification ends.
-/
namespace MessageKeys.Call

/-- A piece together with a shape. -/
structure Shaped (σ : Type) extends Piece where
  shape : σ
  deriving Repr

/-- Shape of one argument. -/
inductive Shape where
  /-- A text in double or single quotes. -/
  | stringLiteral
  /-- An array `new T[] { … }` with its elements, which stand in the text after the brace. -/
  | arrayLiteral (elements : List (Shaped Shape))
  /-- An expression whose last member call is `.name(…)`. -/
  | memberCall (name : Text)
  /-- A bare identifier. -/
  | identifier
  | other
  deriving Repr

/-- An argument and its shape. -/
abbrev Expression := Shaped Shape

namespace Shape

def isIdentifier : Shape → Bool
  | identifier => true
  | _ => false

def isArrayLiteral : Shape → Bool
  | arrayLiteral _ => true
  | _ => false

/-- The name of the method that joins a collection into one text. -/
def joinName : Text := ['j', 'o', 'i', 'n']

/-- A call whose last member is `join`; how many values it stands for cannot be seen. -/
def isJoin : Shape → Bool
  | memberCall name => name == joinName
  | _ => false

end Shape

/-- Whether a text is enclosed in two quotes of the same kind. -/
def isStringLiteral (text : Text) : Bool :=
  2 ≤ text.length &&
    ((text.head? == some '"' && text.getLast? == some '"') ||
      (text.head? == some '\'' && text.getLast? == some '\''))

/-- The text after blanks and then one given character. -/
def afterMark? (mark : Char) (text : Text) : Option Text := Text.after? [mark] (Text.trimStart text)

/-- Reads `new T[] {` at the start of a text and returns the text after the brace. -/
def afterArrayOpening? (text : Text) : Option Text := do
  let rest ← Text.after? ['n', 'e', 'w'] text
  if rest.head?.any Text.isBlank then
    let (_, rest) ← readName? (Text.trimStart rest)
    let rest ← afterMark? '[' (dropDotted rest)
    let rest ← afterMark? ']' rest
    afterMark? '{' rest
  else none

/-- The text after the first array opening. -/
def findArrayOpening? : Text → Option Text
  | [] => none
  | c :: rest => (afterArrayOpening? (c :: rest)).or (findArrayOpening? rest)

/-- The text up to the brace that closes the initializer which `depth` further braces stand in, or
all of it. Braces in literals do not count. -/
def initializerBody (depth : Nat) (quoting : Quoting) : Text → Text
  | [] => []
  | c :: rest =>
    if quoting.isOpen then c :: initializerBody depth (quoting.step c) rest
    else if c = '{' then c :: initializerBody (depth + 1) (quoting.step c) rest
    else if c = '}' then
      match depth with
      | 0 => []
      | outer + 1 => c :: initializerBody outer (quoting.step c) rest
    else c :: initializerBody depth (quoting.step c) rest

/-- Reads `name(` after a dot, blanks allowed before and after the name. -/
def memberCall? (afterDot : Text) : Option Text := do
  let (name, rest) ← readName? (Text.trimStart afterDot)
  let _ ← afterMark? '(' rest
  return name

/-- The name of the last member call outside brackets and literals, else `found`. Closing brackets
without an opening one leave the depth at zero. -/
def lastMemberCall (depth : Nat) (quoting : Quoting) (found : Option Text) : Text → Option Text
  | [] => found
  | c :: rest =>
    let next := quoting.step c
    if quoting.isOpen then lastMemberCall depth next found rest
    else if c = '(' ∨ c = '[' ∨ c = '{' then lastMemberCall (depth + 1) next found rest
    else if c = ')' ∨ c = ']' ∨ c = '}' then lastMemberCall (depth - 1) next found rest
    else if c = '.' ∧ depth = 0 then lastMemberCall depth next ((memberCall? rest).or found) rest
    else lastMemberCall depth next found rest

theorem length_after? {lead text rest : Text} (h : Text.after? lead text = some rest) :
    lead.length + rest.length = text.length := by
  rw [Text.after?_eq_some_iff.mp h, List.length_append]

theorem length_afterMark?_lt {mark : Char} {text rest : Text}
    (h : afterMark? mark text = some rest) :
    rest.length < text.length := by
  have read := length_after? h
  have trimmed := (List.dropWhile_suffix (l := text) Text.isBlank).length_le
  simp only [List.length_singleton] at read
  unfold Text.trimStart at read
  omega

theorem length_readName?_lt {text name rest : Text} (h : readName? text = some (name, rest)) :
    rest.length < text.length := by
  cases text with
  | nil => simp [readName?] at h
  | cons c tail =>
    simp only [readName?] at h
    split at h
    · simp only [Option.some.injEq, Prod.mk.injEq] at h
      rw [← h.2]
      exact Nat.lt_succ_of_le (List.dropWhile_suffix _).length_le
    · simp at h

theorem length_afterArrayOpening?_lt {text rest : Text} (h : afterArrayOpening? text = some rest) :
    rest.length < text.length := by
  simp only [afterArrayOpening?, Option.bind_eq_bind, Option.bind_eq_some_iff] at h
  obtain ⟨afterNew, new, h⟩ := h
  split at h
  · simp only [Option.bind_eq_some_iff] at h
    obtain ⟨⟨name, afterName⟩, named, afterBracket, opened, afterClose, closed, braced⟩ := h
    have trimmed := (List.dropWhile_suffix (l := afterNew) Text.isBlank).length_le
    have one : 3 + afterNew.length = text.length := length_after? new
    have two := length_readName?_lt named
    have three : afterBracket.length < (dropDotted afterName).length := length_afterMark?_lt opened
    have four := length_dropDotted_le afterName
    have five := length_afterMark?_lt closed
    have six := length_afterMark?_lt braced
    unfold Text.trimStart at two
    omega
  · simp at h

theorem length_findArrayOpening?_lt {text rest : Text} (h : findArrayOpening? text = some rest) :
    rest.length < text.length := by
  induction text with
  | nil => simp [findArrayOpening?] at h
  | cons c tail ih =>
    simp only [findArrayOpening?, Option.or_eq_some_iff] at h
    rcases h with here | ⟨_, later⟩
    · exact length_afterArrayOpening?_lt here
    · exact Nat.lt_succ_of_lt (ih later)

theorem length_initializerBody_le (depth : Nat) (quoting : Quoting) (text : Text) :
    (initializerBody depth quoting text).length ≤ text.length := by
  fun_induction initializerBody depth quoting text <;> simp_all

/-- The shape of a trimmed text. -/
def Shape.ofText (text : Text) : Shape :=
  if isStringLiteral text then .stringLiteral
  else
    match opening : findArrayOpening? text with
    | some rest =>
      .arrayLiteral <| (arguments (initializerBody 0 .start rest)).attach.map fun ⟨piece, member⟩ =>
        have _inside : piece.text.length < text.length :=
          Nat.lt_of_le_of_lt (length_le_of_mem_arguments member)
            (Nat.lt_of_le_of_lt (length_initializerBody_le 0 .start rest)
              (length_findArrayOpening?_lt opening))
        { piece with shape := Shape.ofText piece.text }
    | none =>
      match lastMemberCall 0 .start none text with
      | some name => .memberCall name
      | none => if Call.isIdentifier text then .identifier else .other
termination_by text.length

/-- A piece with its shape. -/
def Expression.ofPiece (piece : Piece) : Expression := { piece with shape := .ofText piece.text }

/-- The classified arguments of an argument list. -/
def expressions (list : Text) : List Expression := (arguments list).map Expression.ofPiece

/-- The elements of an array literal are the classified arguments of its initializer. -/
theorem Shape.ofText_eq (text : Text) :
    Shape.ofText text =
      if isStringLiteral text then .stringLiteral
      else
        match findArrayOpening? text with
        | some rest => .arrayLiteral (expressions (initializerBody 0 .start rest))
        | none =>
          match lastMemberCall 0 .start none text with
          | some name => .memberCall name
          | none => if Call.isIdentifier text then .identifier else .other := by
  rw [Shape.ofText]
  split
  · rfl
  · split
    · rename_i rest opening
      simp [opening, expressions, Expression.ofPiece]
    · rename_i opening
      simp [opening]

end MessageKeys.Call
