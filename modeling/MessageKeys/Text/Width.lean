import MessageKeys.Text.Basic
import MessageKeys.Text.Width.Emoji
import MessageKeys.Text.Width.Ligature
import MessageKeys.Text.Width.Wide
import MessageKeys.Text.Width.Zero

/-!
How many columns a text takes on a terminal.

Most characters take one column, East Asian wide characters and emoji two, and characters that
combine with others none. Some sequences take other widths than their characters: a line end of two
characters takes one column; an emoji with a modifier, with a presentation selector or joined to
further emoji takes two in all; a wide emoji with a text selector takes one; and a ligature takes
one. A text is measured from its end, and each character is measured by what follows it.
-/
namespace MessageKeys.Text

/-- What a variation selector asks of the character before it. -/
inductive Selector where
  | emoji
  | text
  /-- The wide form of a quotation mark. -/
  | wide
  deriving DecidableEq, Repr

/-- The selector that a character is. -/
def Selector.ofChar? (c : Char) : Option Selector :=
  if c.toNat = 0xFE0F then some .emoji
  else if c.toNat = 0xFE0E then some .text
  else if c.toNat = 0xFE01 then some .wide
  else none

/-- What stands behind a character, as far as it changes the character's width. -/
inductive Part where
  | plain
  | lineFeed
  /-- An emoji, with all that belongs to it. -/
  | emoji
  /-- A skin tone. -/
  | modifier
  /-- A joiner and then an emoji. -/
  | joined
  /-- The sign of a key, a joiner and then an emoji. -/
  | joinedKey
  /-- The last letter of a flag. -/
  | flagLetter
  /-- Several letters of flags. -/
  | flagLetters
  /-- The last letter of a flag, a joiner and then an emoji. -/
  | joinedFlagLetter
  /-- Several letters of flags, a joiner and then an emoji. -/
  | joinedFlagLetters (paired : Bool)
  /-- As many tag letters, the end of a tag, a joiner and then an emoji. -/
  | tagLetters (count : Nat)
  /-- As many tag digits, perhaps some tag letters, the end of a tag, a joiner and then an emoji. -/
  | tagDigits (count : Nat)
  /-- A Kirat Rai vowel sign e. -/
  | vowelE
  /-- A Kirat Rai vowel sign ai. -/
  | vowelAi
  | ligature (sign : Ligature)
  deriving DecidableEq, Repr

/-- A skin tone. -/
def isModifier (c : Char) : Bool := 0x1F3FB ≤ c.toNat && c.toNat ≤ 0x1F3FF

/-- A letter of a flag. -/
def isFlagLetter (c : Char) : Bool := 0x1F1E6 ≤ c.toNat && c.toNat ≤ 0x1F1FF

/-- A letter of a tag, which is not shown. -/
def isTagLetter (c : Char) : Bool := 0xE0061 ≤ c.toNat && c.toNat ≤ 0xE007A

/-- A digit of a tag, which is not shown. -/
def isTagDigit (c : Char) : Bool := 0xE0030 ≤ c.toNat && c.toNat ≤ 0xE0039

/-- The flag that a tag may follow. -/
def isBlackFlag (c : Char) : Bool := c.toNat == 0x1F3F4

/-- The joiner of emoji. -/
def isJoiner (c : Char) : Bool := c.toNat == 0x200D

/-- Quotation marks that have a wide form. -/
def isCurlyQuote (c : Char) : Bool :=
  c.toNat == 0x2018 || c.toNat == 0x2019 || c.toNat == 0x201C || c.toNat == 0x201D

/-- The width of a character on its own. -/
def charWidth (c : Char) : Int :=
  if zeroWidthRanges.has c.toNat then 0
  else if wideRanges.has c.toNat then 2
  else if c.toNat = 0x17D8 then 3
  else 1

namespace Part

/-- What a character is for the one before it. -/
def ofChar (c : Char) : Part :=
  match Ligature.ofChar? c with
  | some sign => .ligature sign
  | none =>
    if isModifier c then .modifier
    else if isFlagLetter c then .flagLetter
    else if emojiRanges.has c.toNat then .emoji
    else if c.toNat = 0x16D67 then .vowelE
    else if c.toNat = 0x16D68 then .vowelAi
    else .plain

/-- Whether an emoji is joined to what stands before it. -/
def isJoined : Part → Bool
  | .joined | .joinedKey => true
  | _ => false

/-- The columns that a character adds to emoji that are joined to it, and what it is for the one
before it. -/
def beforeJoined? (c : Char) : Option (Int × Part) :=
  if c.toNat = 0x20E3 then some (0, .joinedKey)
  else if isFlagLetter c then some (1, .joinedFlagLetter)
  else if isModifier c then some (0, .modifier)
  else if c.toNat = 0xE007F then some (0, .tagLetters 0)
  else if emojiRanges.has c.toNat then some (0, .emoji)
  else none

/-- The columns that a character adds to what stands behind it, and what it is for the one before
it, if the two belong together. Of flag letters before a joined emoji, two are a flag and take no
column, and one that is left over takes two. -/
def before? (part : Part) (c : Char) : Option (Int × Part) :=
  match part with
  | .plain | .lineFeed | .joinedKey => none
  | .emoji => if isJoiner c then some (0, .joined) else none
  | .modifier =>
    if modifierBaseRanges.has c.toNat then some (0, .emoji)
    else if isJoiner c then some (0, .joined)
    else none
  | .joined => beforeJoined? c
  | .flagLetter => if isFlagLetter c then some (1, .flagLetters) else none
  | .flagLetters =>
    if isFlagLetter c then some (1, .flagLetters)
    else if isJoiner c then some (0, .joined)
    else none
  | .joinedFlagLetter => if isFlagLetter c then some (-1, .joinedFlagLetters true) else none
  | .joinedFlagLetters paired =>
    if isFlagLetter c then some (if paired then 3 else -1, .joinedFlagLetters (!paired))
    else if isJoiner c then some (0, .joined)
    else none
  | .tagLetters count =>
    if isTagLetter c ∧ count < 6 then some (0, .tagLetters (count + 1))
    else if isTagDigit c ∧ count < 5 then some (0, .tagDigits 1)
    else if isBlackFlag c ∧ 3 ≤ count then some (0, .emoji)
    else none
  | .tagDigits count =>
    if isTagDigit c ∧ count < 3 then some (0, .tagDigits (count + 1))
    else if isBlackFlag c ∧ count = 3 then some (0, .emoji)
    else none
  | .vowelE =>
    if c.toNat = 0x16D63 ∨ c.toNat = 0x16D69 then some (0, .plain)
    else if c.toNat = 0x16D67 then some (0, .vowelAi)
    else if c.toNat = 0x16D68 then some (1, .vowelE)
    else none
  | .vowelAi => if c.toNat = 0x16D63 then some (0, .plain) else none
  | .ligature sign =>
    (sign.before? c).map fun (added, rest) => (added, rest.elim .plain .ligature)

/-- The columns that a character adds to what stands behind it, and what it is for the one before
it. -/
def before (part : Part) (c : Char) : Int × Part :=
  (part.before? c).getD (charWidth c, .ofChar c)

end Part

/-- The selectors that stand directly behind a character. -/
structure Selectors where
  emoji : Bool
  text : Bool
  wide : Bool
  deriving DecidableEq, Repr

namespace Selectors

def none : Selectors := ⟨false, false, false⟩

/-- The selectors with one more. -/
def insert (selectors : Selectors) : Selector → Selectors
  | .emoji => { selectors with emoji := true }
  | .text => { selectors with text := true }
  | .wide => { selectors with wide := true }

end Selectors

/-- What stands behind a character: selectors, if there are any, and what comes after them. -/
structure Follower where
  selectors : Selectors
  part : Part
  deriving DecidableEq, Repr

namespace Follower

/-- Nothing that a character depends on. -/
def plain : Follower := ⟨.none, .plain⟩

/-- What stands behind a character, without selectors. -/
def ofPart (part : Part) : Follower := ⟨.none, part⟩

/-- Takes the emoji selector away before a character that it does not change. Of what comes after
it, only a ligature goes on. -/
def dropEmoji (next : Follower) : Follower :=
  if next.selectors.emoji then
    match next.part with
    | .ligature _ => { next with selectors := { next.selectors with emoji := false } }
    | _ => plain
  else next

/-- Puts a selector before a follower. A ligature goes on over it and keeps the selectors that are
there; anything else gives way to it, but for an emoji that is joined to another one. -/
def select (next : Follower) (selector : Selector) : Follower :=
  match next.dropEmoji with
  | ⟨selectors, .ligature sign⟩ => ⟨selectors.insert selector, .ligature sign⟩
  | ⟨_, part⟩ =>
    ⟨Selectors.none.insert selector, if selector = .emoji ∧ part.isJoined then part else .plain⟩

/-- What stands behind a character that the selectors do not change. -/
def unselected (next : Follower) : Part :=
  match next.selectors, next.part with
  | _, .ligature sign => .ligature sign
  | selectors, part => if selectors = .none then part else .plain

end Follower

/-- The columns of a character that a selector changes, and what the character is for the one before
it. -/
def selected? (c : Char) (next : Follower) : Option (Int × Follower) :=
  if next.selectors.emoji ∧ emojiVariantRanges.has c.toNat then
    some (if next.part.isJoined then 0 else 2, .ofPart .emoji)
  else if next.selectors.text ∧ textVariantRanges.has c.toNat then some (1, .plain)
  else if next.selectors.wide ∧ isCurlyQuote c then some (2, .plain)
  else none

/-- The columns that a character adds to the text behind it, and what it is for the one before it.
-/
def measure (c : Char) (next : Follower) : Int × Follower :=
  match selected? c next, Selector.ofChar? c with
  | some result, _ => result
  | none, some selector => (0, next.select selector)
  | none, none =>
    if c = '\n' then (1, .ofPart .lineFeed)
    else if c = '\r' ∧ next.unselected = .lineFeed then (0, .plain)
    else if c.toNat ≤ 0xA0 then (1, .plain)
    else
      let (added, part) := next.unselected.before c
      (added, .ofPart part)

/-- The width of a text and what it is for a character before it. -/
def measureText (text : Text) : Int × Follower :=
  text.foldr (fun c (width, next) => let (added, here) := measure c next; (width + added, here))
    (0, .plain)

/-- The number of columns that a text takes. -/
def width (text : Text) : Nat := (measureText text).1.toNat

end MessageKeys.Text
