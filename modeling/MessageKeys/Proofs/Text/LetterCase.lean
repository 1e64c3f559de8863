import MessageKeys.Text.LetterCase

/-!
Lower-casing a part of a text.

Every character but the capital sigma has a lower-case form of its own; the form of a capital sigma
depends on the nearest characters around it that are not case-ignorable. If both of them, or one
that decides alone, stand in the part itself, the part is lower-cased in every text as it is on its
own (`lowercaseBetween_eq`). A sigma that is left open can be given the other form by a letter in
front of the part or behind it, and then the lower-cased text does not hold the lower-cased part
(`HasLooseSigma.exists_text`).
-/
namespace MessageKeys.Text

theorem hasPart_iff {part text : Text} : hasPart part text = true ↔ part <:+: text := by
  induction text with
  | nil => rw [hasPart, List.isEmpty_iff, List.infix_nil]
  | cons c rest ih =>
    rw [hasPart, Bool.or_eq_true, ih, List.infix_cons_iff, List.isPrefixOf_iff_prefix]

/-! ## Case-ignorable texts -/

/-- A text that is passed over in the search for a cased letter. -/
def IsIgnorable (text : Text) : Prop := ∀ c ∈ text, isCaseIgnorable c = true

theorem isIgnorable_reverse {text : Text} : IsIgnorable text.reverse ↔ IsIgnorable text := by
  simp [IsIgnorable]

theorem isIgnorable_append {a b : Text} :
    IsIgnorable (a ++ b) ↔ IsIgnorable a ∧ IsIgnorable b := List.forall_mem_append

theorem isIgnorable_cons {c : Char} {text : Text} :
    IsIgnorable (c :: text) ↔ isCaseIgnorable c = true ∧ IsIgnorable text := List.forall_mem_cons

theorem isCaseIgnorable_sigma : isCaseIgnorable 'Σ' = false := by decide +kernel

theorem not_isIgnorable_sigma (text : Text) : ¬IsIgnorable ('Σ' :: text) := by
  intro ignorable
  have sigma := (isIgnorable_cons.mp ignorable).1
  rw [isCaseIgnorable_sigma] at sigma
  cases sigma

theorem IsIgnorable.not_mem_sigma {text : Text} (ignorable : IsIgnorable text) : 'Σ' ∉ text := by
  intro member
  have sigma := ignorable _ member
  rw [isCaseIgnorable_sigma] at sigma
  cases sigma

theorem IsIgnorable.leadsCased_append {a : Text} (ignorable : IsIgnorable a) (b : Text) :
    leadsCased (a ++ b) = leadsCased b := by
  rw [leadsCased, List.dropWhile_append_of_pos ignorable]
  rfl

theorem IsIgnorable.leadsCased_eq {text : Text} (ignorable : IsIgnorable text) :
    leadsCased text = false := by
  have alone := ignorable.leadsCased_append []
  rwa [List.append_nil] at alone

/-- Behind a character that is not passed over nothing matters. -/
theorem leadsCased_append_of_not {a : Text} (settled : ¬IsIgnorable a) (b : Text) :
    leadsCased (a ++ b) = leadsCased a := by
  induction a with
  | nil => exact absurd (fun _ member => absurd member List.not_mem_nil) settled
  | cons c rest ih =>
    rw [List.cons_append, leadsCased, leadsCased]
    by_cases ignorable : isCaseIgnorable c = true
    · rw [List.dropWhile_cons_of_pos ignorable, List.dropWhile_cons_of_pos ignorable]
      exact ih fun later => settled (isIgnorable_cons.mpr ⟨ignorable, later⟩)
    · rw [List.dropWhile_cons_of_neg ignorable, List.dropWhile_cons_of_neg ignorable]

/-! ## Parts between other parts -/

/-- The lower-case form of a character, of which a sigma has another one at the end of a word. -/
def lowerForm (final : Bool) (c : Char) : Text :=
  if c = 'Σ' then [if final then 'ς' else 'σ']
  else if c = 'İ' then ['i', Char.ofNat 0x307]
  else [lowerChar c]

/-- The lower-case form of a part between two others, of which the one before it is given last
character first. -/
def lowercaseBetween (before behind : Text) : Text → Text
  | [] => []
  | c :: rest =>
    lowerForm (leadsCased before && !leadsCased (rest ++ behind)) c ++
      lowercaseBetween (c :: before) behind rest

theorem lowercaseAfter_append (before text behind : Text) :
    lowercaseAfter before (text ++ behind) =
      lowercaseBetween before behind text ++ lowercaseAfter (text.reverse ++ before) behind := by
  induction text generalizing before with
  | nil => rfl
  | cons c rest ih =>
    rw [List.cons_append, lowercaseAfter, ih, lowercaseBetween, List.reverse_cons,
      List.append_assoc, List.append_assoc]
    rfl

theorem lowercase_append (before text behind : Text) :
    lowercase (before ++ text ++ behind) =
      lowercaseBetween [] (text ++ behind) before ++
        lowercaseBetween before.reverse behind text ++
        lowercaseAfter (text.reverse ++ before.reverse) behind := by
  rw [lowercase, List.append_assoc, lowercaseAfter_append, lowercaseAfter_append, List.append_nil,
    List.append_assoc]

theorem lowercaseAfter_eq (before text : Text) :
    lowercaseAfter before text = lowercaseBetween before [] text := by
  have whole := lowercaseAfter_append before text []
  rwa [List.append_nil, lowercaseAfter, List.append_nil] at whole

theorem lowercase_eq (text : Text) : lowercase text = lowercaseBetween [] [] text :=
  lowercaseAfter_eq [] text

/-- A character in a part has its form by what stands around it in the part and outside. -/
theorem lowercaseBetween_append_cons (before behind front back : Text) (c : Char) :
    lowercaseBetween before behind (front ++ c :: back) =
      lowercaseBetween before (c :: back ++ behind) front ++
        lowerForm (leadsCased (front.reverse ++ before) && !leadsCased (back ++ behind)) c ++
        lowercaseBetween (c :: (front.reverse ++ before)) behind back := by
  induction front generalizing before with
  | nil => rfl
  | cons first rest ih =>
    rw [List.cons_append, lowercaseBetween, ih, lowercaseBetween, List.append_assoc rest _ behind]
    simp only [List.reverse_cons, List.append_assoc, List.singleton_append]

/-- Only the nearest character before a part matters that is not passed over. -/
theorem lowercaseBetween_before {before : Text} (settled : ¬IsIgnorable before)
    (further behind text : Text) :
    lowercaseBetween (before ++ further) behind text = lowercaseBetween before behind text := by
  induction text generalizing before with
  | nil => rfl
  | cons c rest ih =>
    have stillSettled : ¬IsIgnorable (c :: before) :=
      fun ignorable => settled (isIgnorable_cons.mp ignorable).2
    rw [lowercaseBetween, leadsCased_append_of_not settled, ← List.cons_append, ih stillSettled]
    rfl

/-- Only the nearest character behind a part matters that is not passed over. -/
theorem lowercaseBetween_behind {behind : Text} (settled : ¬IsIgnorable behind)
    (further before text : Text) :
    lowercaseBetween before (behind ++ further) text = lowercaseBetween before behind text := by
  induction text generalizing before with
  | nil => rfl
  | cons c rest ih =>
    have stillSettled : ¬IsIgnorable (rest ++ behind) :=
      fun ignorable => settled (isIgnorable_append.mp ignorable).2
    rw [lowercaseBetween, ← List.append_assoc, leadsCased_append_of_not stillSettled, ih]
    rfl

/-- Without a capital sigma it does not matter what stands around a part. -/
theorem lowercaseBetween_of_not_mem {text : Text} (plain : 'Σ' ∉ text) (before behind : Text) :
    lowercaseBetween before behind text = text.flatMap (lowerForm false) := by
  induction text generalizing before with
  | nil => rfl
  | cons c rest ih =>
    obtain ⟨other, later⟩ := not_or.mp (mt List.mem_cons.mpr plain)
    rw [lowercaseBetween, ih later, List.flatMap_cons, lowerForm, lowerForm, if_neg (Ne.symm other),
      if_neg (Ne.symm other)]

/-! ## Loose sigmas -/

/-- A capital sigma whose lower-case form is not settled by the text: nothing before it decides and
no cased letter follows, or a cased letter comes before it and nothing behind it decides. -/
def HasLooseSigma (text : Text) : Prop :=
  ∃ front back, text = front ++ 'Σ' :: back ∧
    (IsIgnorable front ∧ leadsCased back = false ∨
      leadsCased front.reverse = true ∧ IsIgnorable back)

theorem sigma_settled {front back : Text} (settled : ¬HasLooseSigma (front ++ 'Σ' :: back))
    (before behind : Text) :
    (leadsCased (front.reverse ++ before) && !leadsCased (back ++ behind)) =
      (leadsCased front.reverse && !leadsCased back) := by
  by_cases ignorable : IsIgnorable front
  · -- The letter behind decides alone.
    have cased : leadsCased back = true := by
      rw [← Bool.not_eq_false]
      exact fun uncased => settled ⟨front, back, rfl, .inl ⟨ignorable, uncased⟩⟩
    have reaches : ¬IsIgnorable back := by
      intro none
      rw [none.leadsCased_eq] at cased
      cases cased
    rw [leadsCased_append_of_not reaches, cased, Bool.not_true, Bool.and_false, Bool.and_false]
  · rw [leadsCased_append_of_not (fun reversed => ignorable (isIgnorable_reverse.mp reversed))]
    cases cased : leadsCased front.reverse with
    | false => rfl
    | true =>
      have reaches : ¬IsIgnorable back :=
        fun none => settled ⟨front, back, rfl, .inr ⟨cased, none⟩⟩
      rw [leadsCased_append_of_not reaches]

/-- What is settled in a text is lower-cased alike wherever the text stands. -/
theorem lowercaseBetween_eq {text : Text} (settled : ¬HasLooseSigma text) (before behind : Text) :
    lowercaseBetween before behind text = lowercase text := by
  -- The induction goes over what is left of the text; what has been read stays in view.
  have rest : ∀ front back, text = front ++ back →
      lowercaseBetween (front.reverse ++ before) behind back =
        lowercaseBetween front.reverse [] back := by
    intro front back
    induction back generalizing front with
    | nil => exact fun _ => rfl
    | cons c more ih =>
      intro shape
      have later := ih (front ++ [c]) (by rw [shape, List.append_assoc]; rfl)
      rw [List.reverse_append, List.reverse_singleton, List.singleton_append, List.cons_append]
        at later
      rw [lowercaseBetween, lowercaseBetween, later, List.append_nil]
      by_cases sigma : c = 'Σ'
      · rw [sigma] at shape ⊢
        rw [shape] at settled
        rw [sigma_settled settled]
      · rw [lowerForm, lowerForm, if_neg sigma, if_neg sigma]
  rw [lowercase_eq]
  exact rest [] text rfl

theorem HasLooseSigma.mem {text : Text} (loose : HasLooseSigma text) : 'Σ' ∈ text := by
  obtain ⟨front, back, rfl, -⟩ := loose
  exact List.mem_append_right front List.mem_cons_self

/-- A capital sigma shows in lower case. -/
theorem mem_lowercase_of_sigma {text : Text} (member : 'Σ' ∈ text) :
    'σ' ∈ lowercase text ∨ 'ς' ∈ lowercase text := by
  obtain ⟨front, back, rfl⟩ := List.append_of_mem member
  rw [lowercase_eq, lowercaseBetween_append_cons]
  cases leadsCased (front.reverse ++ []) && !leadsCased (back ++ []) with
  | false => exact .inl (by simp [lowerForm])
  | true => exact .inr (by simp [lowerForm])

/-- A text has all characters of its parts. -/
theorem not_infix_of_count_lt {part text : Text} {c : Char} (fewer : text.count c < part.count c) :
    ¬part <:+: text :=
  fun stands => absurd (stands.sublist.count_le c) (Nat.not_le.mpr fewer)

theorem lowercaseAfter_alpha (before text : Text) :
    lowercaseAfter before ('α' :: text) = 'α' :: lowercaseAfter ('α' :: before) text := by
  have own : lowerChar 'α' = 'α' := by decide +kernel
  rw [lowercaseAfter, if_neg (by decide), if_neg (by decide), own]
  rfl

theorem leadsCased_alpha : leadsCased ['α'] = true := by decide +kernel

/-- A letter in front of a sigma that begins a word on its own makes it end a word. -/
theorem lowercase_alpha_before {front back : Text} (ignorable : IsIgnorable front)
    (uncased : leadsCased back = false) :
    ∃ left right, lowercase (front ++ 'Σ' :: back) = left ++ ['σ'] ++ right ∧
      lowercase ('α' :: (front ++ 'Σ' :: back)) = 'α' :: (left ++ ['ς'] ++ right) := by
  have reversed := isIgnorable_reverse.mpr ignorable
  have settled := lowercaseBetween_before (not_isIgnorable_sigma front.reverse) ['α'] [] back
  refine ⟨front.flatMap (lowerForm false), lowercaseBetween ('Σ' :: front.reverse) [] back, ?_, ?_⟩
  · rw [lowercase_eq, lowercaseBetween_append_cons, lowercaseBetween_of_not_mem
      ignorable.not_mem_sigma]
    simp only [List.append_nil]
    rw [reversed.leadsCased_eq]
    rfl
  · rw [lowercase, lowercaseAfter_alpha, lowercaseAfter_eq, lowercaseBetween_append_cons,
      lowercaseBetween_of_not_mem ignorable.not_mem_sigma, reversed.leadsCased_append,
      leadsCased_alpha, List.append_nil, uncased]
    rw [List.cons_append] at settled
    rw [settled]
    rfl

/-- A letter behind a sigma that ends a word on its own lets the word go on. -/
theorem lowercase_alpha_behind {front back : Text} (cased : leadsCased front.reverse = true)
    (ignorable : IsIgnorable back) :
    ∃ left right, lowercase (front ++ 'Σ' :: back) = left ++ ['ς'] ++ right ∧
      lowercase (front ++ 'Σ' :: back ++ ['α']) = left ++ ['σ'] ++ right ++ ['α'] := by
  have settled := lowercaseBetween_behind (not_isIgnorable_sigma back) ['α'] [] front
  refine ⟨lowercaseBetween [] ('Σ' :: back) front, back.flatMap (lowerForm false), ?_, ?_⟩
  · rw [lowercase_eq, lowercaseBetween_append_cons, lowercaseBetween_of_not_mem
      ignorable.not_mem_sigma]
    simp only [List.append_nil]
    rw [cased, ignorable.leadsCased_eq]
    rfl
  · rw [lowercase, lowercaseAfter_append, lowercaseAfter_alpha, lowercaseBetween_append_cons,
      lowercaseBetween_of_not_mem ignorable.not_mem_sigma, settled, List.append_nil, cased,
      ignorable.leadsCased_append, leadsCased_alpha]
    rfl

/-- A loose sigma can be given the other form, so that the text is not found in lower case where it
stands. -/
theorem HasLooseSigma.exists_text {text : Text} (loose : HasLooseSigma text) :
    ∃ whole, text <:+: whole ∧ ¬lowercase text <:+: lowercase whole := by
  obtain ⟨front, back, rfl, ⟨ignorable, uncased⟩ | ⟨cased, ignorable⟩⟩ := loose
  · obtain ⟨left, right, alone, inWord⟩ := lowercase_alpha_before ignorable uncased
    refine ⟨'α' :: (front ++ 'Σ' :: back), ⟨['α'], [], by simp⟩, ?_⟩
    rw [alone, inWord]
    exact not_infix_of_count_lt (c := 'σ') (by simp)
  · obtain ⟨left, right, alone, inWord⟩ := lowercase_alpha_behind cased ignorable
    refine ⟨front ++ 'Σ' :: back ++ ['α'], ⟨[], ['α'], by simp⟩, ?_⟩
    rw [alone, inWord]
    exact not_infix_of_count_lt (c := 'ς') (by simp)

end MessageKeys.Text
