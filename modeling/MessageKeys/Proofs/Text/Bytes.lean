import MessageKeys.Proofs.Text.Standing

/-!
Texts as bytes.

A text is written in UTF-8, and its positions count bytes. All bytes of a character beyond ASCII lie
above ASCII, so that a byte which is an ASCII character is this character and nothing else
(`exists_of_getElem?_bytes`), also among bytes that end within a character
(`exists_front_of_take_bytes`).
-/
namespace MessageKeys.Text

/-- The bytes of a text. -/
def bytes (text : Text) : List UInt8 := text.flatMap String.utf8EncodeChar

@[simp] theorem bytes_nil : bytes [] = [] := rfl

@[simp] theorem bytes_cons (c : Char) (rest : Text) :
    bytes (c :: rest) = String.utf8EncodeChar c ++ bytes rest := List.flatMap_cons

@[simp] theorem bytes_append (a b : Text) : bytes (a ++ b) = bytes a ++ bytes b :=
  List.flatMap_append

@[simp] theorem length_bytes (text : Text) : (bytes text).length = size text := by
  induction text with
  | nil => rfl
  | cons c rest ih => simp [ih, String.length_utf8EncodeChar]

/-! ## ASCII characters among the bytes -/

theorem toNat_toUInt8 {mark : Char} (ascii : mark.utf8Size = 1) :
    mark.toUInt8.toNat = mark.toNat ∧ mark.toNat ≤ 127 := by
  have low : mark.val.toNat ≤ 127 :=
    UInt32.le_iff_toNat_le.mp (Char.utf8Size_eq_one_iff.mp ascii)
  refine ⟨?_, low⟩
  rw [Char.toUInt8, UInt32.toNat_toUInt8, Nat.mod_eq_of_lt (by omega)]
  rfl

/-- No character but an ASCII character itself has its byte. -/
theorem eq_of_mem_utf8EncodeChar {mark c : Char} (ascii : mark.utf8Size = 1)
    (member : mark.toUInt8 ∈ String.utf8EncodeChar c) : c = mark := by
  obtain ⟨value, low⟩ := toNat_toUInt8 ascii
  by_cases narrow : c.utf8Size = 1
  · rw [String.utf8EncodeChar_eq_singleton narrow, List.mem_singleton] at member
    have same : c.toUInt8.toNat = mark.toUInt8.toNat := congrArg UInt8.toNat member.symm
    rw [value, (toNat_toUInt8 narrow).1] at same
    exact Char.toNat_inj.mp same
  · -- All bytes of a character beyond ASCII have their highest bit set.
    have wide : ¬c.val.toNat ≤ 127 := by
      intro small
      exact narrow (Char.utf8Size_eq_one_iff.mpr (UInt32.le_iff_toNat_le.mpr small))
    have bytes : ∀ byte ∈ String.utf8EncodeChar c, 128 ≤ byte.toNat := by
      simp only [String.utf8EncodeChar, if_neg wide]
      split
      · simp; omega
      · split
        · simp; omega
        · simp; omega
    have high := bytes _ member
    omega

theorem count_utf8EncodeChar {mark : Char} (ascii : mark.utf8Size = 1) (c : Char) :
    (String.utf8EncodeChar c).count mark.toUInt8 = [c].count mark := by
  by_cases same : c = mark
  · rw [same, String.utf8EncodeChar_eq_singleton ascii, List.count_singleton_self]
    exact List.count_singleton_self
  · rw [List.count_eq_zero.mpr, List.count_eq_zero.mpr]
    · simpa using Ne.symm same
    · exact fun member => same (eq_of_mem_utf8EncodeChar ascii member)

/-- An ASCII character is as often among the bytes of a text as among its characters. -/
theorem count_bytes {mark : Char} (ascii : mark.utf8Size = 1) (text : Text) :
    (bytes text).count mark.toUInt8 = text.count mark := by
  induction text with
  | nil => rfl
  | cons c rest ih =>
    rw [bytes_cons, List.count_append, count_utf8EncodeChar ascii, ih, ← List.count_append,
      List.singleton_append]

/-- A byte that is an ASCII character stands between two parts of the text. -/
theorem exists_of_getElem?_bytes {mark : Char} (ascii : mark.utf8Size = 1) {text : Text}
    {position : Nat} (found : (bytes text)[position]? = some mark.toUInt8) :
    ∃ front rest, text = front ++ mark :: rest ∧ size front = position := by
  induction text generalizing position with
  | nil => simp at found
  | cons c rest ih =>
    have length := String.length_utf8EncodeChar c
    rw [bytes_cons] at found
    by_cases within : position < c.utf8Size
    · rw [List.getElem?_append_left (by omega)] at found
      have same := eq_of_mem_utf8EncodeChar ascii (List.mem_of_getElem? found)
      rw [same, ascii] at within
      exact ⟨[], rest, by rw [same]; rfl, by rw [size_nil]; omega⟩
    · rw [List.getElem?_append_right (by omega), length] at found
      obtain ⟨front, behind, rfl, place⟩ := ih found
      exact ⟨c :: front, behind, rfl, by rw [size_cons]; omega⟩

/-- Of the first bytes of a text some are whole characters, and those behind them are no ASCII
characters. -/
theorem exists_front_of_take_bytes (text : Text) (length : Nat) :
    ∃ front, front <+: text ∧ ∀ mark : Char, mark.utf8Size = 1 →
      ((bytes text).take length).count mark.toUInt8 = front.count mark := by
  induction text generalizing length with
  | nil => exact ⟨[], List.prefix_refl [], fun mark _ => by simp⟩
  | cons c rest ih =>
    have bytesOf := String.length_utf8EncodeChar c
    rw [bytes_cons]
    by_cases whole : c.utf8Size ≤ length
    · obtain ⟨front, begins, counts⟩ := ih (length - c.utf8Size)
      refine ⟨c :: front, List.cons_prefix_cons.mpr ⟨rfl, begins⟩, ?_⟩
      intro mark ascii
      rw [List.take_append, bytesOf, List.take_of_length_le (by omega), List.count_append,
        counts mark ascii, count_utf8EncodeChar ascii, ← List.count_append, List.singleton_append]
    · refine ⟨[], List.nil_prefix, ?_⟩
      intro mark ascii
      rw [List.take_append_of_le_length (by omega), List.count_nil, List.count_eq_zero]
      intro member
      have same := eq_of_mem_utf8EncodeChar ascii (List.mem_of_mem_take member)
      rw [same, ascii] at whole
      have none : length = 0 := by omega
      rw [none] at member
      cases member

end MessageKeys.Text
