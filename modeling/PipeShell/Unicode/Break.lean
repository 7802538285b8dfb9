import PipeShell.Unicode.Property

/-!
# `PipeShell.Unicode.Break`: where a text may be divided

Three properties sort the characters for the division of a text into
clusters, words and sentences. Most of their classes follow from
categories and other properties up to a few exceptions, which are listed
here. What is in no class is left over, and the rest has no name to ask
for.
-/

set_option autoImplicit false

namespace PipeShell.Unicode

/-- Signs that are written before the number they cover. -/
def numberSigns : CharSet := .ofText ["600-605 6DD 890-891 8E2 110BD 110CD"]

/-- Format characters that belong to what they stand beside. -/
def tagsAndJoiners : CharSet := .ofText ["200C-200D E0020-E007F"]

/-- The signs of regions, two of which make a flag. -/
def regionalSigns : CharSet := setNamed binaries "Regional_Indicator"

/-- The zero width joiner. -/
def joiner : CharSet := .range 0x200D 0x200D

/-! ### Clusters -/

/-- Signs that stand before the letter they belong to. -/
def prependedSigns : CharSet := .ofText [
  "600-605 6DD 70F 890-891 8E2 D4E 110BD 110CD 111C2-111C3 113D1 1193F 11941 11A3A",
  "11A84-11A89 11D46 11F02"]

/-- Marks that go on top of what stands before them. -/
def clusterExtend : CharSet := .union graphemeExtend (setNamed binaries "Emoji_Modifier")

/-- Controls, separators, format characters and what is reserved for
them. -/
def clusterControl : CharSet :=
  .diff
    (.union (categoryUnion ["Cc", "Cf", "Zl", "Zp"])
      (.inter (categoryUnion ["Cn"]) (setNamed binaries "Default_Ignorable_Code_Point")))
    (.unions [numberSigns, tagsAndJoiners, .ofText ["A D 70F"]])

/-- Marks that stand beside what they belong to. -/
def clusterSpacing : CharSet :=
  .diff (.union (categoryUnion ["Mc"]) (.ofText ["E33 EB3"]))
    (.union clusterExtend (.ofText [
      "102B-102C 1038 1062-1064 1067-106D 1083 1087-108C 108F 109A-109C 1A61 1A63-1A64",
      "AA7B AA7D 11720-11721"]))

/-- The syllables of two parts, which stand at the head of those with
the same parts and one more. -/
def openSyllables : CharSet := .ofText ["AC00-D788/1C"]

/-- The classes for the division into clusters. -/
def clusterClass? (name : String) : Option CharSet :=
  match name with
  | "cn" | "control" => some clusterControl
  | "cr" => some (.range 0x0D 0x0D)
  | "lf" => some (.range 0x0A 0x0A)
  | "ex" | "extend" => some clusterExtend
  | "pp" | "prepend" => some prependedSigns
  | "sm" | "spacingmark" => some clusterSpacing
  | "l" => some (.ofText ["1100-115F A960-A97C"])
  | "v" => some (.ofText ["1160-11A7 D7B0-D7C6 16D63 16D67-16D6A"])
  | "t" => some (.ofText ["11A8-11FF D7CB-D7FB"])
  | "lv" => some openSyllables
  | "lvt" => some (.diff (.range 0xAC00 0xD7A3) openSyllables)
  | "ri" | "regionalindicator" => some regionalSigns
  | "zwj" => some joiner
  | _ => none

/-! ### Words -/

/-- Marks that words pass over. -/
def wordExtend : CharSet := .union clusterExtend (categoryUnion ["Mc"])

/-- The letters of Hebrew. -/
def hebrewLetters : CharSet :=
  .inter (setNamed scripts "Hebrew") (categoryUnion ["Lo"])

/-- The syllables of Katakana with the signs that go with them. -/
def katakanaLetters : CharSet :=
  .union (setNamed scripts "Katakana") (.ofText ["3031-3035 309B-309C 30A0 30FC FF70"])

/-- Letters of scripts that write words without spaces. -/
def unspacedLetters : CharSet := .unions [
  setNamed scripts "Hiragana", setNamed scripts "Thai", setNamed scripts "Lao",
  .ofText [
    "1000-102A 103F 1050-1055 105A-105D 1061 1065-1066 106E-1070 1075-1081 108E",
    "1780-17B3 17D7 17DC 1950-196D 1970-1974 1980-19AB 19B0-19C9 1A20-1A54 1AA7",
    "A9E0-A9E4 A9E6-A9EF A9FA-A9FE AA60-AA76 AA7A AA7E-AAAF AAB1 AAB5-AAB6 AAB9-AABD",
    "AAC0 AAC2 AADB-AADD 11700-1171A 11740-11746"]]

/-- The letters of alphabets, and signs that count as such. -/
def wordLetters : CharSet :=
  .union
    (.diff alphabetic (.unions [setNamed binaries "Ideographic", katakanaLetters,
      hebrewLetters, wordExtend, unspacedLetters]))
    (.ofText [
      "B8 2C2-2C5 2D2-2D7 2DE-2DF 2E5-2EB 2ED 2EF-2FF 55A-55C 55E 58A 5F3 70F A708-A716",
      "A720-A721 A789-A78A AB5B"])

/-- The classes for the division into words. -/
def wordClass? (name : String) : Option CharSet :=
  match name with
  | "le" | "aletter" => some wordLetters
  | "cr" => some (.range 0x0D 0x0D)
  | "lf" => some (.range 0x0A 0x0A)
  | "nl" | "newline" => some (.ofText ["B-C 85 2028-2029"])
  | "dq" | "doublequote" => some (.range 0x22 0x22)
  | "sq" | "singlequote" => some (.range 0x27 0x27)
  | "extend" => some wordExtend
  | "ex" | "extendnumlet" => some (.union (categoryUnion ["Pc"]) (.range 0x202F 0x202F))
  | "fo" | "format" =>
      some (.diff (categoryUnion ["Cf"])
        (.unions [numberSigns, tagsAndJoiners, .ofText ["70F 200B"]]))
  | "hl" | "hebrewletter" => some hebrewLetters
  | "ka" | "katakana" => some katakanaLetters
  | "ml" | "midletter" => some (.ofText ["3A B7 387 55F 5F4 2027 FE13 FE55 FF1A"])
  | "mn" | "midnum" =>
      some (.ofText [
        "2C 3B 37E 589 60C-60D 66C 7F8 2044 FE10 FE14 FE50 FE54 FF0C FF1B"])
  | "mb" | "midnumlet" => some (.ofText ["2E 2018-2019 2024 FE52 FF07 FF0E"])
  | "nu" | "numeric" =>
      some (.unions [decimalDigits, numberSigns, .ofText ["66B 19DA"]])
  | "ri" | "regionalindicator" => some regionalSigns
  | "wsegspace" => some (.diff (categoryUnion ["Zs"]) (.ofText ["A0 2007 202F"]))
  | "zwj" => some joiner
  | _ => none

/-! ### Sentences -/

/-- Marks that sentences pass over. -/
def sentenceExtend : CharSet := .unions [graphemeExtend, categoryUnion ["Mc"], joiner]

/-- Small letters, without those of Georgian, which has no capitals in
running text. -/
def sentenceLower : CharSet :=
  .diff lowercase (.union graphemeExtend (.ofText ["10D0-10FA 10FD-10FF"]))

/-- Capital letters, without those of Georgian. -/
def sentenceUpper : CharSet :=
  .diff (.union uppercase (categoryUnion ["Lt"])) (.ofText ["1C90-1CBA 1CBD-1CBF"])

/-- Full stops, which may end a sentence. -/
def fullStops : CharSet := .ofText ["2E 2024 FE52 FF0E"]

/-- The classes for the division into sentences. -/
def sentenceClass? (name : String) : Option CharSet :=
  match name with
  | "at" | "aterm" => some fullStops
  | "cl" | "close" =>
      some (.diff
        (.unions [categoryUnion ["Ps", "Pe", "Pi", "Pf"], setNamed binaries "Quotation_Mark",
          .ofText ["275B-2760 2E00-2E01 2E06-2E08 2E0B 1F676-1F678"]])
        (.ofText ["FF02 FF07"]))
  | "cr" => some (.range 0x0D 0x0D)
  | "lf" => some (.range 0x0A 0x0A)
  | "ex" | "extend" => some sentenceExtend
  | "fo" | "format" =>
      some (.diff (categoryUnion ["Cf"]) (.union numberSigns tagsAndJoiners))
  | "le" | "oletter" =>
      some (.union
        (.diff alphabetic (.unions [sentenceLower, sentenceUpper, sentenceExtend]))
        (.range 0x5F3 0x5F3))
  | "lo" | "lower" => some sentenceLower
  | "up" | "upper" => some sentenceUpper
  | "nu" | "numeric" =>
      some (.unions [decimalDigits, numberSigns, .ofText ["66B-66C 19DA"]])
  | "sc" | "scontinue" =>
      some (.ofText [
        "2C-2D 3A-3B 37E 55D 60C-60D 7F8 1802 1808 2013-2014 3001 FE10-FE11 FE13-FE14",
        "FE31-FE32 FE50-FE51 FE54-FE55 FE58 FE63 FF0C-FF0D FF1A-FF1B FF64"])
  | "se" | "sep" => some (.ofText ["85 2028-2029"])
  | "sp" => some (.diff whiteSpace (.ofText ["A D 85 2028-2029"]))
  | "st" | "sterm" => some (.diff (setNamed binaries "Sentence_Terminal") fullStops)
  | _ => none

end PipeShell.Unicode
