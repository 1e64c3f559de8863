import MessageKeys.Text.Basic

/-!
Blank characters and trimming.

Blank are the 25 characters with the Unicode property White_Space. `trim` takes them off both ends;
`blankLead_append_trimStart` and `trimEnd_isPrefix` say that nothing else is lost.
-/
namespace MessageKeys.Text

/-- A character with the property White_Space. -/
def isBlank (c : Char) : Bool :=
  c.toNat ∈ [0x20, 0x85, 0xA0, 0x1680, 0x2028, 0x2029, 0x202F, 0x205F, 0x3000] ||
    (0x09 ≤ c.toNat && c.toNat ≤ 0x0D) || (0x2000 ≤ c.toNat && c.toNat ≤ 0x200A)

/-- The text without the blanks it begins with. -/
def trimStart (text : Text) : Text := text.dropWhile isBlank

/-- The text without the blanks it ends with. -/
def trimEnd (text : Text) : Text := (text.reverse.dropWhile isBlank).reverse

/-- The text without the blanks at either end. -/
def trim (text : Text) : Text := trimEnd (trimStart text)

/-- The blanks that a text begins with. -/
def blankLead (text : Text) : Text := text.takeWhile isBlank

theorem blankLead_append_trimStart (text : Text) : blankLead text ++ trimStart text = text :=
  List.takeWhile_append_dropWhile

theorem trimEnd_isPrefix (text : Text) : trimEnd text <+: text := by
  have dropped := List.dropWhile_suffix (l := text.reverse) isBlank
  simpa [trimEnd] using List.reverse_prefix.mpr dropped

theorem length_trim_le (text : Text) : (trim text).length ≤ text.length :=
  Nat.le_trans (trimEnd_isPrefix _).length_le (List.dropWhile_suffix _).length_le

end MessageKeys.Text
