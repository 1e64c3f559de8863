import MessageKeys.Call.Quoting
import MessageKeys.Text.Blank

/-!
The arguments of a call.

An argument list is cut at its top-level commas: those outside quoted literals at which parentheses,
braces and brackets each have been closed as often as they were opened. `segments` gives the texts
between these commas, and joining them with commas gives the list back (`join_segments`).
`arguments` trims each segment, keeps where it stands, and drops the last one if it is blank, so
that an empty list has no arguments.
-/
namespace MessageKeys.Call

/-- A reader of an argument list: quoting, and how many more openings than closings of each kind of
bracket it has passed. A list that closes more than it opens has negative counts. -/
structure Scan where
  quoting : Quoting
  parens : Int
  braces : Int
  brackets : Int
  deriving DecidableEq, Repr

namespace Scan

def start : Scan := ⟨.start, 0, 0, 0⟩

/-- Outside literals and with every kind of bracket balanced. -/
def atTop (scan : Scan) : Bool :=
  !scan.quoting.isOpen && scan.parens == 0 && scan.braces == 0 && scan.brackets == 0

/-- The reader after one more character; within literals brackets do not count. -/
def step (scan : Scan) (c : Char) : Scan :=
  let next := { scan with quoting := scan.quoting.step c }
  if scan.quoting.isOpen then next
  else
    match c with
    | '(' => { next with parens := scan.parens + 1 }
    | ')' => { next with parens := scan.parens - 1 }
    | '{' => { next with braces := scan.braces + 1 }
    | '}' => { next with braces := scan.braces - 1 }
    | '[' => { next with brackets := scan.brackets + 1 }
    | ']' => { next with brackets := scan.brackets - 1 }
    | _ => next

end Scan

/-- The texts between the top-level commas of a list, read on from `scan`. -/
def segments (scan : Scan) : Text → List Text
  | [] => [[]]
  | c :: rest =>
    if c = ',' ∧ scan.atTop then [] :: segments (scan.step c) rest
    else
      match segments (scan.step c) rest with
      | [] => [[c]]
      | first :: more => (c :: first) :: more

theorem segments_ne_nil (scan : Scan) (text : Text) : segments scan text ≠ [] := by
  cases text with
  | nil => simp [segments]
  | cons c rest =>
    simp only [segments]
    split
    · simp
    · split <;> simp

/-- Cutting at commas loses only the commas. -/
theorem join_segments (scan : Scan) (text : Text) :
    Text.join [','] (segments scan text) = text := by
  induction text generalizing scan with
  | nil => rfl
  | cons c rest ih =>
    have step := ih (scan.step c)
    have filled := segments_ne_nil (scan.step c) rest
    simp only [segments]
    split
    · rename_i comma
      cases inner : segments (scan.step c) rest with
      | nil => exact absurd inner filled
      | cons first more =>
        rw [inner] at step
        simp [Text.join, step, comma.1]
    · cases inner : segments (scan.step c) rest with
      | nil => exact absurd inner filled
      | cons first more =>
        rw [inner] at step
        cases more <;> simp_all [Text.join]

/-- A trimmed text and the byte position at which it stands in the text it was cut from. -/
structure Piece where
  text : Text
  offset : Nat
  deriving DecidableEq, Repr

namespace Piece

/-- The piece that a segment starting at `start` leaves when it is trimmed. -/
def ofSegment (start : Nat) (segment : Text) : Piece :=
  ⟨Text.trim segment, start + Text.size (Text.blankLead segment)⟩

/-- The position just after the piece. -/
def stop (piece : Piece) : Nat := piece.offset + Text.size piece.text

end Piece

/-- The pieces of consecutive segments that one-byte separators divide; a blank last one is dropped.
-/
def pieces (start : Nat) : List Text → List Piece
  | [] => []
  | [last] => if Text.trim last = [] then [] else [.ofSegment start last]
  | segment :: more => .ofSegment start segment :: pieces (start + Text.size segment + 1) more

/-- The arguments of an argument list. -/
def arguments (list : Text) : List Piece := pieces 0 (segments .start list)

/-- A segment is no longer than the text it was cut from. -/
theorem length_le_of_mem_segments {scan : Scan} {text segment : Text}
    (member : segment ∈ segments scan text) : segment.length ≤ text.length := by
  induction text generalizing scan segment with
  | nil => simp_all [segments]
  | cons c rest ih =>
    simp only [segments] at member
    split at member
    · rcases List.mem_cons.mp member with rfl | inner
      · simp
      · exact Nat.le_succ_of_le (ih inner)
    · split at member
      · simp_all
      · rename_i first more cut
        rcases List.mem_cons.mp member with rfl | inner
        · simpa using @ih (scan.step c) first (by simp [cut])
        · exact Nat.le_succ_of_le (@ih (scan.step c) segment (by simp [cut, inner]))

/-- Every piece is the trim of one of the segments. -/
theorem exists_of_mem_pieces {start : Nat} {texts : List Text} {piece : Piece}
    (member : piece ∈ pieces start texts) : ∃ segment ∈ texts, piece.text = Text.trim segment := by
  fun_induction pieces start texts with
  | case1 => simp at member
  | case2 start last blank => simp at member
  | case3 start last filled =>
    rw [List.mem_singleton] at member
    exact ⟨last, by simp, by rw [member]; rfl⟩
  | case4 start segment more _ ih =>
    rcases List.mem_cons.mp member with rfl | inner
    · exact ⟨segment, by simp, rfl⟩
    · obtain ⟨found, inside, same⟩ := ih inner
      exact ⟨found, List.mem_cons_of_mem _ inside, same⟩

/-- An argument is no longer than the list it stands in. -/
theorem length_le_of_mem_arguments {list : Text} {piece : Piece}
    (member : piece ∈ arguments list) : piece.text.length ≤ list.length := by
  obtain ⟨segment, inside, same⟩ := exists_of_mem_pieces member
  rw [same]
  exact Nat.le_trans (Text.length_trim_le segment) (length_le_of_mem_segments inside)

end MessageKeys.Call
