import MessageKeys.Proofs.Text.Trimming
import MessageKeys.Source.Position

/-!
Places that are written and read back.

Numbers are read as they are written, as long as they fit a word (`parseNat?_ofNat`). Since digits
hold no colon, the last two colons of a written place are those in front of its line and its column,
and the place is read back whatever its file is called (`ofText_toText`).
-/
namespace MessageKeys

namespace Text

theorem isDigit_of_mem_ofNat {n : Nat} {c : Char} (member : c ∈ ofNat n) : isDigit c = true := by
  have digit := Nat.isDigit_of_mem_toDigits (by decide) (by decide) member
  simp only [Char.isDigit, Bool.and_eq_true, decide_eq_true_eq] at digit
  simp only [isDigit, Bool.and_eq_true, decide_eq_true_eq]
  exact digit

theorem not_mem_ofNat {c : Char} (other : isDigit c = false) (n : Nat) : c ∉ ofNat n := by
  intro member
  rw [isDigit_of_mem_ofNat member] at other
  cases other

theorem digitsValue_ofNat (n : Nat) : digitsValue (ofNat n) = n := Nat.ofDigitChars_ten_toDigits

theorem ofNat_injective : Function.Injective ofNat :=
  Function.LeftInverse.injective digitsValue_ofNat

/-- A number that fits a word is read as it is written. -/
theorem parseNat?_ofNat {n : Nat} (fits : n ≤ wordMax) : parseNat? (ofNat n) = some n := by
  have unsigned : after? ['+'] (ofNat n) = none := by
    rw [Option.eq_none_iff_forall_not_mem]
    intro rest signed
    have begins := after?_eq_some_iff.mp signed
    exact not_mem_ofNat (c := '+') (by decide) n (by rw [begins]; simp)
  have some : ofNat n ≠ [] := Nat.toDigits_ne_nil
  have digits : (ofNat n).all isDigit = true :=
    List.all_eq_true.mpr fun c member => isDigit_of_mem_ofNat member
  simp only [parseNat?, unsigned, Option.getD_none, digitsValue_ofNat]
  rw [if_pos ⟨some, digits, fits⟩]

end Text

/-- A place is read back as it was written, also if the name of its file holds colons. -/
theorem Location.ofText_toText {place : Location} (line : place.line ≤ Text.wordMax)
    (column : place.column ≤ Text.wordMax) : ofText place.toText = .ok place := by
  have lineCut : Text.cutLast? ':' (place.file ++ ':' :: Text.ofNat place.line) =
      some (place.file, Text.ofNat place.line) :=
    Text.cutLast?_append (Text.not_mem_ofNat (by decide) _) _
  have columnCut : Text.cutLast? ':' place.toText =
      some (place.file ++ ':' :: Text.ofNat place.line, Text.ofNat place.column) := by
    have shape : place.toText =
        (place.file ++ ':' :: Text.ofNat place.line) ++ ':' :: Text.ofNat place.column := by
      simp [toText, Text.join]
    rw [shape]
    exact Text.cutLast?_append (Text.not_mem_ofNat (by decide) _) _
  simp only [ofText, columnCut, lineCut, Text.parseNat?_ofNat line, Text.parseNat?_ofNat column]
  rfl

end MessageKeys
