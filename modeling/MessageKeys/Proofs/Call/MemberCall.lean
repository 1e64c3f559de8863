import MessageKeys.Proofs.Call.ArrayOpening
import MessageKeys.Proofs.Call.KeyPosition
import MessageKeys.Proofs.Call.Supply
import MessageKeys.Proofs.Call.TopLevel
import MessageKeys.Proofs.Diagnostic

/-!
The member call that an expression ends in.

The search for it passes the characters one by one and keeps the quote it is in and the number of
open brackets, of whatever kind (`Nesting`). What it remembers changes only at a dot outside all of
them: a text without such a dot, as a name or anything within brackets, leaves it alone
(`Nesting.lastCall_append`). An expression `receiver.name(list)` is therefore a call of `name`,
whatever stands in the receiver and in the list (`shape_writeCall`).
-/
namespace MessageKeys.Call

open Text

/-- A reader that looks for member calls: quoting, and how many brackets are open. -/
structure Nesting where
  quoting : Quoting
  depth : Nat
  deriving DecidableEq, Repr

namespace Nesting

/-- Outside literals, within some brackets. -/
def start (depth : Nat) : Nesting := ⟨.start, depth⟩

/-- The reader after one more character. A bracket that closes none leaves the depth at zero. -/
def step (nesting : Nesting) (c : Char) : Nesting where
  quoting := nesting.quoting.step c
  depth :=
    if nesting.quoting.isOpen then nesting.depth
    else if c = '(' ∨ c = '[' ∨ c = '{' then nesting.depth + 1
    else if c = ')' ∨ c = ']' ∨ c = '}' then nesting.depth - 1
    else nesting.depth

/-- The reader after a whole text. -/
def run (nesting : Nesting) (text : Text) : Nesting := text.foldl step nesting

@[simp] theorem run_nil (nesting : Nesting) : nesting.run [] = nesting := rfl

@[simp] theorem run_cons (nesting : Nesting) (c : Char) (rest : Text) :
    nesting.run (c :: rest) = (nesting.step c).run rest := rfl

/-- Outside literals, within `depth` brackets. -/
def IsAt (nesting : Nesting) (depth : Nat) : Prop :=
  nesting.quoting.isOpen = false ∧ nesting.depth = depth

instance (nesting : Nesting) (depth : Nat) : Decidable (nesting.IsAt depth) :=
  inferInstanceAs (Decidable (_ ∧ _))

/-- What was found last, searched on from this reader. -/
def lastCall (nesting : Nesting) (found : Option Text) (text : Text) : Option Text :=
  lastMemberCall nesting.depth nesting.quoting found text

/-- The search remembers another call at most at a dot outside literals and brackets. -/
theorem lastCall_cons (nesting : Nesting) (found : Option Text) (c : Char) (rest : Text) :
    nesting.lastCall found (c :: rest) =
      (nesting.step c).lastCall
        (if nesting.IsAt 0 ∧ c = '.' then (memberCall? rest).or found else found) rest := by
  by_cases dot : nesting.IsAt 0 ∧ c = '.'
  · obtain ⟨⟨closed, top⟩, rfl⟩ := dot
    rw [if_pos ⟨⟨closed, top⟩, rfl⟩]
    simp [lastCall, lastMemberCall, step, closed, top]
  · rw [if_neg dot]
    simp only [lastCall, lastMemberCall, step]
    by_cases inside : nesting.quoting.isOpen = true
    · simp [inside]
    · by_cases opens : c = '(' ∨ c = '[' ∨ c = '{'
      · simp [inside, opens]
      · by_cases closes : c = ')' ∨ c = ']' ∨ c = '}'
        · simp [inside, opens, closes]
        · have below : ¬(c = '.' ∧ nesting.depth = 0) :=
            fun here => dot ⟨⟨Bool.not_eq_true _ ▸ inside, here.2⟩, here.1⟩
          simp only [if_neg inside, if_neg opens, if_neg closes, if_neg below]

theorem exists_lastCall_append (nesting : Nesting) (found : Option Text) (text rest : Text) :
    ∃ later, nesting.lastCall found (text ++ rest) = (nesting.run text).lastCall later rest := by
  induction text generalizing nesting found with
  | nil => exact ⟨found, rfl⟩
  | cons c more ih =>
    rw [List.cons_append, lastCall_cons]
    exact ih _ _

/-- Without a dot outside literals and brackets nothing else is remembered. -/
theorem lastCall_append {nesting : Nesting} {text : Text}
    (undotted : ∀ front back, text = front ++ '.' :: back → ¬(nesting.run front).IsAt 0)
    (found : Option Text) (rest : Text) :
    nesting.lastCall found (text ++ rest) = (nesting.run text).lastCall found rest := by
  induction text generalizing nesting with
  | nil => rfl
  | cons c more ih =>
    have here : ¬(nesting.IsAt 0 ∧ c = '.') := by
      rintro ⟨outside, rfl⟩
      exact undotted [] more rfl outside
    rw [List.cons_append, lastCall_cons, if_neg here]
    apply ih
    rintro front back rfl
    exact undotted (c :: front) back rfl

/-- Outside literals, what comes next does not depend on what came before. -/
theorem IsAt.step {nesting : Nesting} {depth : Nat} (outside : nesting.IsAt depth) (c : Char) :
    nesting.step c = (start depth).step c := by
  obtain ⟨⟨delimiter, escaped⟩, _⟩ := nesting
  obtain ⟨closed, rfl⟩ := outside
  cases delimiter with
  | none => rfl
  | some quote => cases closed

theorem step_plain {c : Char} (plain : c ∉ marks) (depth : Nat) :
    (start depth).step c = start depth := by
  have free := afterBackslash_of_not_mem_marks plain
  have unopening := isQuote_of_not_mem_marks plain
  simp only [marks, List.mem_cons, not_or] at plain
  simp [step, start, Quoting.step, Quoting.start, Quoting.isOpen, free, unopening, plain]

theorem run_identifier {name : Text} (parts : ∀ c ∈ name, isIdentifierPart c = true)
    (depth : Nat) : (start depth).run name = start depth := by
  induction name with
  | nil => rfl
  | cons c rest ih =>
    obtain ⟨part, others⟩ := List.forall_mem_cons.mp parts
    rw [run_cons, step_plain (not_mem_marks (by decide) part), ih others]

end Nesting

/-! ## Calls -/

/-- A call of a member, written out. -/
def writeCall (receiver name list : Text) : Text :=
  receiver ++ '.' :: (name ++ '(' :: (list ++ [')']))

theorem memberCall?_eq {name : Text} (named : isIdentifier name = true) (rest : Text) :
    memberCall? (name ++ '(' :: rest) = some name := by
  have isName := isName_of_isIdentifier named
  have ends : EndsName ('(' :: rest) := by
    intro c behind shape
    rw [← (List.cons.inj shape).1]
    decide
  have mark : afterMark? '(' ('(' :: rest) = some rest :=
    (afterMark?_eq_some_iff (by decide)).mpr ⟨[], rfl, by simp⟩
  rw [memberCall?, isName.trimStart_append, readName?_append isName ends]
  simp [mark]

/-- The last member call of `receiver.name(list)` is that of `name`. -/
theorem lastMemberCall_writeCall {receiver name list : Text}
    (outside : ((Nesting.start 0).run receiver).IsAt 0) (named : isIdentifier name = true)
    (within : ∀ front, front <+: list → 1 ≤ ((Nesting.start 1).run front).depth) :
    lastMemberCall 0 .start none (writeCall receiver name list) = some name := by
  have parts := identifierParts_of_isIdentifier named
  obtain ⟨earlier, passed⟩ := (Nesting.start 0).exists_lastCall_append none receiver
    ('.' :: (name ++ '(' :: (list ++ [')'])))
  have undottedName : ∀ front back, name = front ++ '.' :: back →
      ¬((Nesting.start 0).run front).IsAt 0 := by
    rintro front back rfl
    exact absurd (parts '.' (by simp)) (by decide)
  have undottedList : ∀ front back, list = front ++ '.' :: back →
      ¬((Nesting.start 1).run front).IsAt 0 := by
    rintro front back rfl ⟨_, none⟩
    have inside := within front (List.prefix_append _ _)
    omega
  have dotted : (Nesting.start 0).step '.' = Nesting.start 0 := rfl
  have opened : (Nesting.start 0).step '(' = Nesting.start 1 := rfl
  calc lastMemberCall 0 .start none (writeCall receiver name list)
      = ((Nesting.start 0).run receiver).lastCall earlier
          ('.' :: (name ++ '(' :: (list ++ [')']))) := passed
    _ = (Nesting.start 0).lastCall (some name) (name ++ '(' :: (list ++ [')'])) := by
        rw [Nesting.lastCall_cons, outside.step, dotted, if_pos ⟨outside, rfl⟩,
          memberCall?_eq named]
        rfl
    _ = (Nesting.start 1).lastCall (some name) (list ++ [')']) := by
        rw [Nesting.lastCall_append undottedName, Nesting.run_identifier parts,
          Nesting.lastCall_cons, opened]
        rfl
    _ = ((Nesting.start 1).run list).lastCall (some name) [')'] :=
        Nesting.lastCall_append undottedList _ _
    _ = some name := by
        rw [Nesting.lastCall_cons, if_neg (by simp)]
        rfl

/-- An expression `receiver.name(list)` without array initializers has the shape of a call. -/
theorem shape_writeCall {receiver name list : Text}
    (outside : ((Nesting.start 0).run receiver).IsAt 0) (named : isIdentifier name = true)
    (within : ∀ front, front <+: list → 1 ≤ ((Nesting.start 1).run front).depth)
    (plain : ∀ opening, IsArrayOpening opening → ¬opening <:+: writeCall receiver name list) :
    Shape.ofText (writeCall receiver name list) = .memberCall name := by
  have unquoted : isStringLiteral (writeCall receiver name list) = false := by
    have last : (writeCall receiver name list).getLast? = some ')' := by
      have ends : writeCall receiver name list =
          (receiver ++ '.' :: (name ++ '(' :: list)) ++ [')'] := by
        simp [writeCall]
      rw [ends, List.getLast?_concat]
    simp [isStringLiteral, last]
  rw [Shape.ofText_eq, unquoted, findArrayOpening?_eq_none plain,
    lastMemberCall_writeCall outside named within]
  rfl

/-- The text is the only argument of the call, or the only element of an array initializer that
is. -/
def Site.SuppliesOnly (site : Site) (text : Text) : Prop :=
  ∃ argument, site.arguments = [argument] ∧ (argument.text = text ∨
    ∃ element, argument.shape = .arrayLiteral [element] ∧ element.text = text)

/-- The arguments of a call site are classified. -/
theorem classified_of_mem_sites {source : Text} {methods : List MethodName} {site : Site}
    (member : site ∈ sites source methods) :
    ∀ argument ∈ site.arguments, Expression.IsClassified argument := by
  obtain ⟨_, _, _, made⟩ := exists_of_mem_sites member
  obtain ⟨_, _, first, read, _⟩ := ofInvocation?_eq_some made
  intro argument inside
  have listed : argument ∈ expressions site.list.text := by
    rw [read]
    exact List.mem_cons_of_mem _ inside
  exact classified_expressions argument listed

/-- A call that is given a call of `join` and nothing else is supplied what is expected. -/
theorem supplied_of_suppliesOnly {source : Text} {methods : List MethodName} {site : Site}
    (member : site ∈ sites source methods) {text : Text} (only : site.SuppliesOnly text)
    (join : Shape.ofText text = .memberCall Shape.joinName) (expected : Nat) :
    supplied expected site.arguments = expected := by
  obtain ⟨argument, single, held⟩ := only
  have classified : argument.IsClassified :=
    classified_of_mem_sites member argument (by rw [single]; exact List.mem_cons_self)
  rw [single]
  rcases held with rfl | ⟨element, shape, rfl⟩
  · exact supplied_join classified (classified.shaped.trans join) expected
  · have lone : isLoneJoin ([element].map (·.text)) = true := by
      simp only [List.map_cons, List.map_nil, isLoneJoin, join]
      rfl
    rw [supplied_arrayLiteral classified shape, if_pos lone]

end MessageKeys.Call

namespace MessageKeys

open Call Text

/-- An expression `receiver.name(list)` is a call of `name`, whatever calls stand in the receiver
and in the list, and a call of `join` is never taken for a wrong number of values. -/
theorem memberCall_recognized (receiver name list : Text)
    (outside : ((Nesting.start 0).run receiver).IsAt 0) (named : isIdentifier name = true)
    (within : ∀ front, front <+: list → 1 ≤ ((Nesting.start 1).run front).depth)
    (plain : ∀ opening, IsArrayOpening opening → ¬opening <:+: writeCall receiver name list) :
    Shape.ofText (writeCall receiver name list) = .memberCall name ∧
      ((Shape.ofText (writeCall receiver name list)).isJoin = true ↔ name = Shape.joinName) ∧
      (name = Shape.joinName → ∀ source methods, ∀ site ∈ sites source methods,
        site.SuppliesOnly (writeCall receiver name list) →
        ∀ template, ∀ diagnostic ∈ Diagnostic.ofSite site template, diagnostic.kind ≠ .count) := by
  have shape := shape_writeCall outside named within plain
  refine ⟨shape, ?_, ?_⟩
  · rw [shape, Shape.isJoin, beq_iff_eq]
  · rintro rfl source methods site member only template diagnostic broken
    exact Diagnostic.kind_ne_count (supplied_of_suppliesOnly member only shape _) broken

/-- A call of `join` with literals that look like one, and with calls on both sides of it. -/
def nestedJoin : Text :=
  writeCall "repo.find(\").join(\", ids[0]).names".toList Shape.joinName
    "\"), (\", user.tags().join(sep)".toList

theorem memberCall_recognized_nested :
    Shape.ofText nestedJoin = .memberCall Shape.joinName ∧
      (∃ site ∈ sites ("log(\"k\", ".toList ++ nestedJoin ++ [')'])
          (MethodName.ofTexts ["log".toList]),
        site.arguments.map (·.text) = [nestedJoin] ∧
        ∀ diagnostic ∈ Diagnostic.ofSite site "\x7b0\x7d \x7b1\x7d".toList,
          diagnostic.kind ≠ .count) ∧
      ∃ site ∈ sites ("log(\"k\", new T[] \x7b".toList ++ nestedJoin ++ "\x7d)".toList)
          (MethodName.ofTexts ["log".toList]),
        site.arguments.map (·.text) = ["new T[] \x7b".toList ++ nestedJoin ++ ['}']] ∧
        ∀ diagnostic ∈ Diagnostic.ofSite site "\x7b0\x7d \x7b1\x7d".toList,
          diagnostic.kind ≠ .count := by
  have plain : ∀ opening, IsArrayOpening opening → ¬opening <:+: nestedJoin := by
    intro opening isOpening inside
    exact absurd (inside.subset isOpening.brace_mem) (by decide)
  obtain ⟨shape, _, counted⟩ := memberCall_recognized "repo.find(\").join(\", ids[0]).names".toList
    Shape.joinName "\"), (\", user.tags().join(sep)".toList (by decide) (by decide) (by decide)
    plain
  refine ⟨shape, ?_, ?_⟩
  · have listed : [nestedJoin] ∈ (sites ("log(\"k\", ".toList ++ nestedJoin ++ [')'])
        (MethodName.ofTexts ["log".toList])).map fun site => site.arguments.map (·.text) := by
      decide +kernel
    obtain ⟨site, member, texts⟩ := List.mem_map.mp listed
    obtain ⟨argument, single, same⟩ := List.map_eq_singleton_iff.mp texts
    exact ⟨site, member, texts, counted rfl _ _ site member ⟨argument, single, .inl same⟩ _⟩
  · have listed : ["new T[] \x7b".toList ++ nestedJoin ++ ['}']] ∈
        (sites ("log(\"k\", new T[] \x7b".toList ++ nestedJoin ++ "\x7d)".toList)
          (MethodName.ofTexts ["log".toList])).map fun site => site.arguments.map (·.text) := by
      decide +kernel
    have opening : findArrayOpening? ("new T[] \x7b".toList ++ nestedJoin ++ ['}']) =
        some (nestedJoin ++ ['}']) := by decide +kernel
    have elements : arguments (initializerBody 0 .start (nestedJoin ++ ['}'])) =
        [⟨nestedJoin, 0⟩] := by decide +kernel
    have array : Shape.ofText ("new T[] \x7b".toList ++ nestedJoin ++ ['}']) =
        .arrayLiteral [Expression.ofPiece ⟨nestedJoin, 0⟩] := by
      rw [Shape.ofText_eq, opening, if_neg (by decide)]
      simp only [expressions, elements, List.map_cons, List.map_nil]
    obtain ⟨site, member, texts⟩ := List.mem_map.mp listed
    obtain ⟨argument, single, same⟩ := List.map_eq_singleton_iff.mp texts
    have shaped := (classified_of_mem_sites member argument (by simp [single])).shaped
    rw [same, array] at shaped
    exact ⟨site, member, texts,
      counted rfl _ _ site member ⟨argument, single, .inr ⟨_, shaped, rfl⟩⟩ _⟩

end MessageKeys
