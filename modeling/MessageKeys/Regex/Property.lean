import MessageKeys.Character.Age
import MessageKeys.Character.Category
import MessageKeys.Character.Script
import MessageKeys.Character.Segment
import MessageKeys.Character.Trait

/-!
Properties of characters by the names that patterns give them.

A name stands for a trait, a category or a script, `property=value` or `property:value` for the
characters whose property has the value, and `property!=value` for all the others. Blanks, minus
signs, low lines and letter case in names do not matter, nor does an `is` before them; characters
beyond ASCII are passed over.
-/
namespace MessageKeys.Regex.Property

open Character

/-- The name without what does not matter in it. An `is` is part of the name where only `c` follows
it. -/
def plainName (name : Text) : String :=
  let letters (name : Text) : Text := name.filterMap fun c =>
    if c ∈ [' ', '_', '-'] ∨ 128 ≤ c.toNat then none else some c.toLower
  match name with
  | first :: second :: rest =>
    if first.toLower = 'i' ∧ second.toLower = 's' then
      if letters rest = ['c'] then "isc" else String.ofList (letters rest)
    else String.ofList (letters name)
  | _ => String.ofList (letters name)

/-- The characters that a single name stands for. -/
def named? (name : String) : Option Definition :=
  (Trait.named? name).or ((category? name).or (script? name))

/-- The characters whose property has a value. -/
def valued? (property value : String) : Option Definition :=
  match property with
  | "gc" => category? value
  | "generalcategory" => category? value
  | "sc" => script? value
  | "script" => script? value
  | "scx" => scriptUse? value
  | "scriptextensions" => scriptUse? value
  | "age" => age? value
  | "gcb" => Segment.part? Segment.clusterParts value
  | "graphemeclusterbreak" => Segment.part? Segment.clusterParts value
  | "wb" => Segment.part? Segment.wordParts value
  | "wordbreak" => Segment.part? Segment.wordParts value
  | "sb" => Segment.part? Segment.sentenceParts value
  | "sentencebreak" => Segment.part? Segment.sentenceParts value
  | _ => none

/-- The texts before and after the first `!=`. -/
def cutUnequal? : Text → Option (Text × Text)
  | [] => none
  | c :: rest =>
    if c = '!' ∧ rest.head? = some '=' then some ([], rest.tail)
    else (cutUnequal? rest).map fun (before, after) => (c :: before, after)

/-- The characters that a text stands for, and whether all the others are meant: `!=` asks for the
characters whose property has another value. -/
def ofText? (text : Text) : Option (CodeRanges × Bool) :=
  let valued (parts : Text × Text) := valued? (plainName parts.1) (plainName parts.2)
  let found := match cutUnequal? text with
    | some parts => (valued parts, true)
    | none =>
      match (Text.cutFirst? ':' text).or (Text.cutFirst? '=' text) with
      | some parts => (valued parts, false)
      | none => (named? (plainName text), false)
  found.1.map fun definition => (definition.ranges, found.2)

end MessageKeys.Regex.Property
