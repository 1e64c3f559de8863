import MessageKeys.Text.Basic

/-!
Styled output.

Output is made of fragments, each with a style or plain, and is written with or without colour only
at the end. With colour a styled fragment stands between the escape sequence of its style and the
one that ends it; without colour styles do not show.
-/
namespace MessageKeys

/-- Foreground colours. -/
inductive Color where
  | red
  | green
  | yellow
  | blue
  | cyan
  deriving DecidableEq, Repr

/-- The code of a foreground colour. -/
def Color.code : Color → Text
  | red => ['3', '1']
  | green => ['3', '2']
  | yellow => ['3', '3']
  | blue => ['3', '4']
  | cyan => ['3', '6']

/-- A style of output. -/
structure Style where
  bold : Bool
  dimmed : Bool
  color? : Option Color
  deriving DecidableEq, Repr

namespace Style

def colored (color : Color) : Style := ⟨false, false, some color⟩

def boldColored (color : Color) : Style := ⟨true, false, some color⟩

def justBold : Style := ⟨true, false, none⟩

def justDimmed : Style := ⟨false, true, none⟩

/-- Weight comes before colour. -/
def codes (style : Style) : List Text :=
  (if style.bold then [['1']] else []) ++ (if style.dimmed then [['2']] else []) ++
    (style.color?.map Color.code).toList

/-- The escape sequence of some codes. -/
def escapeSequence (codes : List Text) : Text :=
  Char.ofNat 0x1B :: '[' :: Text.join [';'] codes ++ ['m']

def opening (style : Style) : Text := escapeSequence style.codes

/-- The escape sequence that ends every style. -/
def reset : Text := escapeSequence [['0']]

/-- A text in which `lead` follows each `reset`; the first `skip` characters have been copied. -/
def reopen (lead : Text) (skip : Nat) : Text → Text
  | [] => []
  | c :: rest =>
    match skip with
    | 0 =>
      if reset.isPrefixOf (c :: rest) then c :: reopen lead (reset.length - 1) rest
      else c :: reopen lead 0 rest
    | 1 => c :: lead ++ reopen lead 0 rest
    | later + 2 => c :: reopen lead (later + 1) rest

end Style

/-- A text in one style. -/
structure Fragment where
  style? : Option Style
  text : Text
  deriving DecidableEq, Repr

/-- A fragment as it is written; where its text ends styles, its own is opened again. -/
def Fragment.render (colors : Bool) (fragment : Fragment) : Text :=
  match fragment.style? with
  | some style =>
    if colors then
      style.opening ++ Style.reopen style.opening 0 fragment.text ++ Style.reset
    else fragment.text
  | none => fragment.text

/-- Output before it is written. -/
abbrev Styled := List Fragment

namespace Styled

def plain (text : Text) : Styled := [⟨none, text⟩]

def literal (text : String) : Styled := plain text.toList

def styled (style : Style) (text : Text) : Styled := [⟨some style, text⟩]

/-- Output with a line end behind it. -/
def line (output : Styled) : Styled := output ++ plain ['\n']

/-- Writes output with or without colours. -/
def render (colors : Bool) (output : Styled) : Text := output.flatMap (Fragment.render colors)

end Styled

end MessageKeys
