import MessageKeys.Text.CodeRanges
import MessageKeys.Text.Width.Zero

/-!
Ligatures: sequences of letters that are written as one sign and take one column.

A ligature is found from its end. `Ligature` says how much of one stands behind a character, and
`Ligature.before?` what that character makes of it.
-/
namespace MessageKeys.Text

/-- The forms of the Arabic letter alef. -/
def alefRanges : CodeRanges :=
  [(0x622, 0x623), (0x625, 0x625), (0x627, 0x627), (0x671, 0x673), (0x675, 0x675), (0x773, 0x774),
   (0x870, 0x882)]

/-- The forms of the Arabic letter lam. -/
def lamRanges : CodeRanges :=
  [(0x644, 0x644), (0x6B5, 0x6B8), (0x76A, 0x76A), (0x8A6, 0x8A6), (0x8C7, 0x8C7)]

/-- Characters without a column that part an Arabic lam from an alef behind them. -/
def solidRanges : CodeRanges :=
  [(0x605, 0x605), (0x890, 0x891), (0x8E2, 0x8E2), (0x9BE, 0x9BE), (0x9D7, 0x9D7), (0xB3E, 0xB3E),
   (0xB57, 0xB57), (0xBBE, 0xBBE), (0xBD7, 0xBD7), (0xCC0, 0xCC0), (0xCC2, 0xCC2), (0xCC7, 0xCC8),
   (0xCCA, 0xCCB), (0xCD5, 0xCD6), (0xD3E, 0xD3E), (0xD4E, 0xD4E), (0xD57, 0xD57), (0xDCF, 0xDCF),
   (0xDDF, 0xDDF), (0x1160, 0x11FF), (0x1715, 0x1715), (0x1734, 0x1734), (0x180E, 0x180E),
   (0x1B35, 0x1B35), (0x1B3B, 0x1B3B), (0x1B3D, 0x1B3D), (0x1B43, 0x1B44), (0x1BAA, 0x1BAA),
   (0x1BF2, 0x1BF3), (0x200C, 0x200D), (0x2065, 0x2069), (0x302E, 0x302F), (0x3164, 0x3164),
   (0xA8FA, 0xA8FA), (0xA953, 0xA953), (0xA9C0, 0xA9C0), (0xD7B0, 0xD7C6), (0xD7CB, 0xD7FB),
   (0xFFA0, 0xFFA0), (0xFFF0, 0xFFF8), (0x111C0, 0x111C0), (0x111C2, 0x111C3), (0x11235, 0x11235),
   (0x1133E, 0x1133E), (0x1134D, 0x1134D), (0x11357, 0x11357), (0x113B8, 0x113B8),
   (0x113C2, 0x113C2), (0x113C5, 0x113C5), (0x113C7, 0x113C9), (0x113CF, 0x113CF),
   (0x113D1, 0x113D1), (0x114B0, 0x114B0), (0x114BD, 0x114BD), (0x115AF, 0x115AF),
   (0x116B6, 0x116B6), (0x11930, 0x11930), (0x1193D, 0x1193D), (0x1193F, 0x1193F),
   (0x11941, 0x11941), (0x11A84, 0x11A89), (0x11D46, 0x11D46), (0x11F02, 0x11F02),
   (0x11F41, 0x11F41), (0x16FF0, 0x16FF1), (0x1D165, 0x1D166), (0x1D16D, 0x1D172),
   (0x1D250, 0x1D252), (0x1D25B, 0x1D25C), (0x1D25F, 0x1D25F), (0x1D280, 0x1D281),
   (0xE0000, 0xE0000), (0xE0002, 0xE001F), (0xE0080, 0xE00FF), (0xE01F0, 0xE0FFF)]

/-- Khmer letters that have a form below the line. -/
def coengRanges : CodeRanges :=
  [(0x1780, 0x1782), (0x1784, 0x1787), (0x1789, 0x178C), (0x178E, 0x1793), (0x1795, 0x1798),
   (0x179B, 0x179D), (0x17A0, 0x17A0), (0x17A2, 0x17A2), (0x17A7, 0x17A7), (0x17AB, 0x17AC),
   (0x17AF, 0x17AF)]

/-- Tifinagh consonants. -/
def tifinaghRanges : CodeRanges :=
  [(0x2D31, 0x2D65), (0x2D6F, 0x2D6F)]

/-- Marks that are not shown and may stand anywhere in a ligature. -/
def transparentRanges : CodeRanges :=
  [(0x34F, 0x34F), (0x17B4, 0x17B5), (0x180B, 0x180D), (0x180F, 0x180F), (0x200D, 0x200D),
   (0xFE00, 0xFE0F), (0xE0100, 0xE01EF)]

/-- The end of a ligature that stands behind a character. Letters that are bound to the one before
them by a joiner say whether the joiner is there. -/
inductive Ligature where
  /-- An Arabic alef. -/
  | alef
  /-- A Hebrew lamed. -/
  | lamed (joined : Bool)
  /-- A Khmer letter that may stand below the line. -/
  | coeng
  /-- A Buginese ya. -/
  | ya (joined : Bool)
  /-- A Buginese vowel sign and a ya that is joined to it. -/
  | vowelYa
  /-- A Tifinagh consonant. -/
  | consonant (joined : Bool)
  /-- A Tifinagh consonant and the script's own joiner before it. -/
  | boundConsonant
  /-- The second of two Lisu tones. -/
  | tone
  /-- An Old Turkic i. -/
  | orkhonI (joined : Bool)
  deriving DecidableEq, Repr

namespace Ligature

/-- The ligature that ends in a character. -/
def ofChar? (c : Char) : Option Ligature :=
  if alefRanges.has c.toNat then some .alef
  else if c.toNat = 0x5DC then some (.lamed false)
  else if coengRanges.has c.toNat then some .coeng
  else if c.toNat = 0x1A10 then some (.ya false)
  else if tifinaghRanges.has c.toNat then some (.consonant false)
  else if c.toNat = 0xA4FC ∨ c.toNat = 0xA4FD then some .tone
  else if c.toNat = 0x10C03 then some (.orkhonI false)
  else none

/-- A ligature with a joiner before it. -/
def join : Ligature → Ligature
  | .lamed _ => .lamed true
  | .ya _ => .ya true
  | .consonant _ => .consonant true
  | .orkhonI _ => .orkhonI true
  | other => other

/-- Whether a character stands between the letters of a ligature and leaves it as it is. An alef
lets all marks through that are written on a letter, the others those only that are not shown. -/
def lets (ligature : Ligature) (c : Char) : Bool :=
  if ligature = .alef then zeroWidthRanges.has c.toNat && !solidRanges.has c.toNat
  else transparentRanges.has c.toNat

/-- The columns that a letter adds to a ligature behind it, and the ligature that goes on before it.
-/
def extend? (ligature : Ligature) (c : Char) : Option (Int × Option Ligature) :=
  match ligature with
  | .alef => if lamRanges.has c.toNat then some (0, none) else none
  | .lamed true => if c.toNat = 0x5D0 then some (0, none) else none
  | .coeng => if c.toNat = 0x17D2 then some (-1, none) else none
  | .ya true => if c.toNat = 0x1A17 then some (0, some .vowelYa) else none
  | .vowelYa => if c.toNat = 0x1A15 then some (0, none) else none
  | .consonant joined =>
    if c.toNat = 0x2D7F then some (1, some .boundConsonant)
    else if joined ∧ tifinaghRanges.has c.toNat then some (0, none)
    else none
  | .boundConsonant => if tifinaghRanges.has c.toNat then some (-1, none) else none
  | .tone => if 0xA4F8 ≤ c.toNat ∧ c.toNat ≤ 0xA4FB then some (0, none) else none
  | .orkhonI true => if c.toNat = 0x10C32 then some (0, none) else none
  | _ => none

/-- The columns that a character adds to a ligature behind it, and the ligature that goes on before
it, if the character belongs to the ligature. -/
def before? (ligature : Ligature) (c : Char) : Option (Int × Option Ligature) :=
  if ligature ≠ .alef ∧ c.toNat = 0x200D then some (0, some ligature.join)
  else if ligature.lets c then some (0, some ligature)
  else ligature.extend? c

end Ligature

end MessageKeys.Text
