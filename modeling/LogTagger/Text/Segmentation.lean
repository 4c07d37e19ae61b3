import LogTagger.Text.Property
import LogTagger.Text.Script

/-!
# Boundaries in text

The properties by which text is divided into what is read as one character, into words and into
sentences, by the Unicode Character Database, version 16. The values are disjoint sets of characters,
most of them defined from general categories and other properties. Each list names the values, without
blanks, underscores and capital letters; characters with none of them have no name for that.
-/

namespace LogTagger.Text.Segmentation

open Category (chars)

/-- Carriage returns. -/
def carriageReturn : CharSet := .ofText "D"

/-- Line feeds. -/
def lineFeed : CharSet := .ofText "A"

/-- The joiner of width zero. -/
def zeroWidthJoiner : CharSet := .ofText "200D"

/-- The joiner and the separator of width zero. -/
def zeroWidth : CharSet := .ofText "200C-200D"

/-- Characters that stand for themselves but extend what stands before them. -/
def spacingMark : CharSet := chars [.spacingMark] \ Property.graphemeExtend

/-- Formatting characters that do not extend what stands before them. -/
def formatting : CharSet :=
  chars [.format] \ (zeroWidth ∪ Property.prependedMark ∪ Property.graphemeExtend)

/-! ### What is read as one character -/

/-- Controls, assigned and reserved. -/
def control : CharSet :=
  (chars [.lineSeparator, .paragraphSeparator, .control, .format] ∪
      (chars [.unassigned] ∩ Property.ignorable)) \
    (carriageReturn ∪ lineFeed ∪ zeroWidth ∪ Property.prependedMark ∪ Property.graphemeExtend)

/-- Characters that belong to the one before. -/
def extend : CharSet := (Property.graphemeExtend ∪ Property.emojiModifier) \ zeroWidthJoiner

/-- Spacing marks that do not belong to the character before. -/
def detachedMark : CharSet := .ofText
  "102B-102C 1038 1062-1064 1067-106D 1083 1087-108C 108F 109A-109C 1A61 1A63-1A64 AA7B AA7D 11720-11721"

/-- Spacing marks that belong to the character before. -/
def attachedMark : CharSet := (spacingMark \ detachedMark) ∪ .ofText "E33 EB3"

/-- Characters that belong to the one after. -/
def prepend : CharSet :=
  Property.prependedMark ∪ .ofText "D4E 111C2-111C3 113D1 1193F 11941 11A84-11A89 11D46 11F02"

/-- Consonants that lead a syllable. -/
def leadingJamo : CharSet := .ofText "1100-115F A960-A97C"

/-- Vowels of a syllable. -/
def vowelJamo : CharSet := .ofText "1160-11A7 D7B0-D7C6 16D63 16D67-16D6A"

/-- Consonants that trail a syllable. -/
def trailingJamo : CharSet := .ofText "11A8-11FF D7CB-D7FB"

/-- Syllables without a trailing consonant: every 28th of all syllables. -/
def openSyllable : CharSet := .ofPoints ((List.range 399).map (fun k => 0xAC00 + 28 * k))

/-- Syllables with a trailing consonant. -/
def closedSyllable : CharSet := .ofText "AC00-D7A3" \ openSyllable

/-- The values for what is read as one character. -/
def graphemeBreaks : List (List String × CharSet) := [
  (["cr"], carriageReturn), (["lf"], lineFeed), (["cn", "control"], control), (["ex", "extend"], extend),
  (["l"], leadingJamo), (["v"], vowelJamo), (["t"], trailingJamo), (["lv"], openSyllable),
  (["lvt"], closedSyllable), (["pp", "prepend"], prepend), (["ri", "regionalindicator"], Property.regionalIndicator),
  (["sm", "spacingmark"], attachedMark), (["zwj"], zeroWidthJoiner)
]

/-! ### Words -/

/-- Line ends other than carriage return and line feed. -/
def wordNewline : CharSet := .ofText "B-C 85 2028-2029"

/-- Characters that belong to the one before. -/
def wordExtend : CharSet := extend ∪ chars [.spacingMark]

/-- Blanks that run together. -/
def wordSpace : CharSet := .ofText "20 1680 2000-2006 2008-200A 205F 3000"

/-- Katakana. -/
def wordKatakana : CharSet := Script.chars "Kana" ∪ .ofText "3031-3035 309B-309C 30A0 30FC FF70"

/-- Hebrew letters. -/
def wordHebrew : CharSet := Script.chars "Hebr" ∩ chars [.otherLetter]

/-- Scripts without blanks between words. -/
def unspaced : CharSet :=
  .unions (["Thai", "Laoo", "Mymr", "Khmr", "Tale", "Talu", "Lana", "Tavt", "Ahom"].map Script.chars)

/-- Characters of words that are no letters. -/
def otherWordLetter : CharSet := .ofText (String.intercalate " " [
  "B8 2C2-2C5 2D2-2D7 2DE-2DF 2E5-2EB 2ED 2EF-2FF 55A-55C 55E 58A 5F3 70F A708-A716 A720-A721 A789-A78A",
  "AB5B"
])

/-- Letters of words. -/
def wordLetter : CharSet :=
  (Property.alphabetic \ (Property.ideographic ∪ wordKatakana ∪ Script.chars "Hira" ∪ wordHebrew ∪
    wordExtend ∪ unspaced)) ∪ otherWordLetter

/-- Formatting characters within words. -/
def wordFormat : CharSet := formatting \ .ofText "200B"

/-- Punctuation within words and numbers. -/
def midNumberLetter : CharSet := .ofText "2E 2018-2019 2024 FE52 FF07 FF0E"

/-- Punctuation within words. -/
def midLetter : CharSet := .ofText "3A B7 387 55F 5F4 2027 FE13 FE55 FF1A"

/-- Punctuation within numbers. -/
def midNumber : CharSet := .ofText "2C 3B 37E 589 60C-60D 66C 7F8 2044 FE50 FE54 FF0C FF1B"

/-- Characters that connect words and numbers. -/
def wordConnector : CharSet := .ofText "5F 202F 203F-2040 2054 FE33-FE34 FE4D-FE4F FF3F"

/-- Digits and what is read like digits. -/
def numeric : CharSet :=
  (chars [.decimalNumber] ∪ Property.prependedMark ∪ .ofText "66B 19DA") \ .ofText "70F"

/-- The values for words. -/
def wordBreaks : List (List String × CharSet) := [
  (["cr"], carriageReturn), (["lf"], lineFeed), (["nl", "newline"], wordNewline), (["extend"], wordExtend),
  (["zwj"], zeroWidthJoiner), (["ri", "regionalindicator"], Property.regionalIndicator),
  (["fo", "format"], wordFormat),
  (["ka", "katakana"], wordKatakana), (["hl", "hebrewletter"], wordHebrew), (["le", "aletter"], wordLetter),
  (["sq", "singlequote"], .ofText "27"), (["dq", "doublequote"], .ofText "22"),
  (["mb", "midnumlet"], midNumberLetter),
  (["ml", "midletter"], midLetter), (["mn", "midnum"], midNumber), (["nu", "numeric"], numeric),
  (["ex", "extendnumlet"], wordConnector), (["wsegspace"], wordSpace)
]

/-! ### Sentences -/

/-- Characters that belong to the one before. -/
def sentenceExtend : CharSet := Property.graphemeExtend ∪ chars [.spacingMark] ∪ zeroWidthJoiner

/-- Ends of paragraphs. -/
def sentenceSeparator : CharSet := .ofText "85 2028-2029"

/-- Formatting characters within sentences. -/
def sentenceFormat : CharSet := formatting ∪ .ofText "70F"

/-- Blanks within paragraphs. -/
def sentenceSpace : CharSet := Property.whiteSpace \ (sentenceSeparator ∪ carriageReturn ∪ lineFeed)

/-- Small letters. -/
def sentenceLower : CharSet := (Property.lowercase \ Property.graphemeExtend) \ .ofText "10D0-10FA 10FD-10FF"

/-- Capital letters. -/
def sentenceUpper : CharSet := (Property.uppercase ∪ chars [.titlecaseLetter]) \ .ofText "1C90-1CBA 1CBD-1CBF"

/-- Letters without a case. -/
def sentenceLetter : CharSet :=
  (Property.alphabetic ∪ .ofText "5F3") \ (sentenceLower ∪ sentenceUpper ∪ sentenceExtend)

/-- Digits and what is read like digits. -/
def sentenceNumeric : CharSet := numeric ∪ .ofText "66C"

/-- Full stops. -/
def fullStop : CharSet := .ofText "2E 2024 FE52 FF0E"

/-- Other punctuation at the end of a sentence. -/
def sentenceEnd : CharSet := Property.sentenceTerminal \ fullStop

/-- Punctuation at which a sentence goes on. -/
def sentenceContinue : CharSet :=
  .ofText (String.intercalate " " [
    "2C-2D 3A-3B 37E 55D 60C-60D 7F8 1802 1808 2013-2014 3001 FE10-FE11 FE13-FE14 FE31-FE32 FE50-FE51",
    "FE54-FE55 FE58 FE63 FF0C-FF0D FF1A-FF1B FF64"])

/-- Quotation marks and brackets. -/
def closing : CharSet :=
  chars [.openPunctuation, .closePunctuation, .initialPunctuation, .finalPunctuation] ∪
    .ofText "22 27 275B-2760 2E00-2E01 2E06-2E08 2E0B 1F676-1F678"

/-- The values for sentences. -/
def sentenceBreaks : List (List String × CharSet) := [
  (["cr"], carriageReturn), (["lf"], lineFeed), (["ex", "extend"], sentenceExtend),
  (["se", "sep"], sentenceSeparator), (["fo", "format"], sentenceFormat), (["sp"], sentenceSpace),
  (["lo", "lower"], sentenceLower),
  (["up", "upper"], sentenceUpper), (["le", "oletter"], sentenceLetter), (["nu", "numeric"], sentenceNumeric),
  (["at", "aterm"], fullStop), (["st", "sterm"], sentenceEnd), (["sc", "scontinue"], sentenceContinue),
  (["cl", "close"], closing)
]

end LogTagger.Text.Segmentation
