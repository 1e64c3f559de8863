import MessageKeys.Character.Script
import MessageKeys.Character.Trait

/-!
Parts that characters play where text is cut into clusters, words and sentences, as of Unicode 16.0.
-/
namespace MessageKeys.Character.Segment

open Trait

/-- Syllables of two letters: every twenty-eighth one. -/
def openSyllables : Definition :=
  .listed ((List.range 399).map fun i => (0xAC00 + 28 * i, 0xAC00 + 28 * i))

def syllables : Definition := .table "AC00-D7A3"

def clusterExtend : Definition := .union graphemeExtend emojiModifier

def clusterPrepend : Definition :=
  .table
    "600-605 6DD 70F 890-891 8E2 D4E 110BD 110CD 111C2-111C3 113D1 1193F 11941 11A3A 11A84-11A89
     11D46 11F02"

def clusterControl : Definition := .difference
    (.anyOf [categoriesOf ["zl", "zp", "cc", "cf"], .difference defaultIgnorable assigned])
    (.anyOf [.table "A D 200C-200D", prependedConcatenationMark, graphemeExtend])

/-- Marks that are written apart from the cluster before them. -/
def looseMarks : Definition :=
  .table
    "102B-102C 1038 1062-1064 1067-106D 1083 1087-108C 108F 109A-109C 1A61 1A63-1A64 AA7B AA7D
     11720-11721"

def clusterSpacing : Definition := .union (.table "E33 EB3")
    (.difference (categoriesOf ["mc"]) (.union graphemeExtend looseMarks))

/-- The parts in clusters. -/
def clusterParts : List (List String × Definition) :=
  [(["cr"], .table "D"), (["lf"], .table "A"), (["cn", "control"], clusterControl),
   (["ex", "extend"], clusterExtend), (["l"], .table "1100-115F A960-A97C"),
   (["lv"], openSyllables), (["lvt"], .difference syllables openSyllables),
   (["pp", "prepend"], clusterPrepend), (["ri", "regionalindicator"], regionalIndicator),
   (["sm", "spacingmark"], clusterSpacing), (["t"], .table "11A8-11FF D7CB-D7FB"),
   (["v"], .table "1160-11A7 D7B0-D7C6 16D63 16D67-16D6A"), (["zwj"], .table "200D")]

def wordExtend : Definition := .difference
    (.anyOf [graphemeExtend, categoriesOf ["mc"], emojiModifier]) (.table "200D")

def wordFormat : Definition := .difference (categoriesOf ["cf"])
    (.anyOf [graphemeExtend, prependedConcatenationMark, .table "200B-200D"])

def katakana : Definition :=
  .table
    "3031-3035 309B-309C 30A0-30FA 30FC-30FF 31F0-31FF 32D0-32FE 3300-3357 FF66-FF9D 1AFF0-1AFF3
     1AFF5-1AFFB 1AFFD-1AFFE 1B000 1B120-1B122 1B155 1B164-1B167"

def hebrewLetter : Definition :=
  .table
    "5D0-5EA 5EF-5F2 FB1D FB1F-FB28 FB2A-FB36 FB38-FB3C FB3E FB40-FB41 FB43-FB44 FB46-FB4F"

/-- Signs that stand before the digits they belong to. -/
def numberSigns : Definition := .difference prependedConcatenationMark (.table "70F")

def numeric : Definition := .anyOf [categoriesOf ["nd"], numberSigns, .table "66B 19DA"]

/-- Letters of scripts that write no blanks between words. -/
def unspacedLetters : Definition :=
  .table
    "E01-E30 E32-E33 E40-E46 E81-E82 E84 E86-E8A E8C-EA3 EA5 EA7-EB0 EB2-EB3 EBD EC0-EC4 EC6
     EDC-EDF 1000-102A 103F 1050-1055 105A-105D 1061 1065-1066 106E-1070 1075-1081 108E
     1780-17B3 17D7 17DC 1950-196D 1970-1974 1980-19AB 19B0-19C9 1A20-1A54 1AA7 A9E0-A9E4
     A9E6-A9EF A9FA-A9FE AA60-AA76 AA7A AA7E-AAAF AAB1 AAB5-AAB6 AAB9-AABD AAC0 AAC2 AADB-AADD
     11700-1171A 11740-11746"

def wordLetter : Definition := .union
    (.table
      "2C2-2C5 2D2-2D7 2DE-2DF 2E5-2EB 2ED 2EF-2FF 55A-55C 55E 58A 5F3 70F A708-A716 A720-A721
       A789-A78A AB5B")
    (.difference alphabetic (.anyOf
      [ideographic, katakana, hebrewLetter, unspacedLetters, wordExtend,
       (script? "hiragana").getD (.table "")]))

/-- The parts in words. -/
def wordParts : List (List String × Definition) :=
  [(["le", "aletter"], wordLetter), (["cr"], .table "D"), (["dq", "doublequote"], .table "22"),
   (["extend"], wordExtend), (["ex", "extendnumlet"], .union (categoriesOf ["pc"]) (.table "202F")),
   (["fo", "format"], wordFormat), (["hl", "hebrewletter"], hebrewLetter),
   (["ka", "katakana"], katakana), (["lf"], .table "A"),
   (["ml", "midletter"], .table "3A B7 387 55F 5F4 2027 FE13 FE55 FF1A"),
   (["mn", "midnum"], .table "2C 3B 37E 589 60C-60D 66C 7F8 2044 FE50 FE54 FF0C FF1B"),
   (["mb", "midnumlet"], .table "2E 2018-2019 2024 FE52 FF07 FF0E"),
   (["nl", "newline"], .table "B-C 85 2028-2029"), (["nu", "numeric"], numeric),
   (["ri", "regionalindicator"], regionalIndicator), (["sq", "singlequote"], .table "27"),
   (["wsegspace"], .table "20 1680 2000-2006 2008-200A 205F 3000"), (["zwj"], .table "200D")]

def sentenceExtend : Definition := .anyOf [graphemeExtend, categoriesOf ["mc"], .table "200D"]

/-- Letters of one script whose case does not part sentences. -/
def georgian : Definition := .table "10D0-10FA 10FD-10FF 1C90-1CBA 1CBD-1CBF"

def sentenceLower : Definition := .difference lowercase (.union sentenceExtend georgian)

def sentenceUpper : Definition :=
  .difference (.union uppercase (categoriesOf ["lt"])) georgian

def sentenceLetter : Definition := .difference (.union alphabetic (.table "5F3"))
    (.anyOf [sentenceLower, sentenceUpper, sentenceExtend])

def fullStop : Definition := .table "2E 2024 FE52 FF0E"

def sentenceClose : Definition := .union (categoriesOf ["ps", "pe", "pi", "pf"])
    (.table "22 27 275B-2760 2E00-2E01 2E06-2E08 2E0B 1F676-1F678")

def sentenceContinue : Definition :=
  .table
    "2C-2D 3A-3B 37E 55D 60C-60D 7F8 1802 1808 2013-2014 3001 FE10-FE11 FE13-FE14 FE31-FE32
     FE50-FE51 FE54-FE55 FE58 FE63 FF0C-FF0D FF1A-FF1B FF64"

/-- The parts in sentences. -/
def sentenceParts : List (List String × Definition) :=
  [(["at", "aterm"], fullStop), (["cl", "close"], sentenceClose), (["cr"], .table "D"),
   (["ex", "extend"], sentenceExtend),
   (["fo", "format"], .difference (categoriesOf ["cf"]) (.union sentenceExtend numberSigns)),
   (["lf"], .table "A"),
   (["lo", "lower"], sentenceLower), (["nu", "numeric"], .union numeric (.table "66C")),
   (["le", "oletter"], sentenceLetter), (["sc", "scontinue"], sentenceContinue),
   (["se", "sep"], .table "85 2028-2029"),
   (["sp"], .table "9 B-C 20 A0 1680 2000-200A 202F 205F 3000"),
   (["st", "sterm"], .difference sentenceTerminal fullStop), (["up", "upper"], sentenceUpper)]

/-- The characters of a part, by any of its names. -/
def part? (parts : List (List String × Definition)) (name : String) : Option Definition :=
  (parts.find? fun (names, _) => names.contains name).map Prod.snd

end MessageKeys.Character.Segment
