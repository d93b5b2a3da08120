import FacetSearch.Unicode.Property
import FacetSearch.Unicode.Script

/-!
# Segmentation

What characters are for the breaks between clusters of characters, words and sentences, in
version 16 of Unicode. What they are for all three has one set; the others have one each.
-/

namespace FacetSearch.Unicode

open Category Property

namespace Segment

def carriageReturn : RangeSet := .ofList [0x0D]

def lineFeed : RangeSet := .ofList [0x0A]

def zeroWidthJoiner : RangeSet := .ofList [0x200D]

/-- Marks that are written together with the character before them. -/
def extend : RangeSet := graphemeExtend.union spacingMark

end Segment

open Segment

/-! ## Clusters of characters -/

namespace GraphemeBreak

def control : RangeSet := .ofHex [
  "0-9 B-C E-1F 7F-9F AD 61C 180E 200B 200E-200F 2028-202E 2060-206F FEFF FFF0-FFFB 13430-1343F",
  "1BCA0-1BCA3 1D173-1D17A E0000-E001F E0080-E00FF E01F0-E0FFF"]

def extend : RangeSet := graphemeExtend.union emojiModifier

def prepend : RangeSet := .ofHex [
  "600-605 6DD 70F 890-891 8E2 D4E 110BD 110CD 111C2-111C3 113D1 1193F 11941 11A3A 11A84-11A89",
  "11D46 11F02"]

/-- Spacing marks that begin a cluster of their own. -/
def separateMarks : RangeSet := .ofHex [
  "102B-102C 1038 1062-1064 1067-106D 1083 1087-108C 108F 109A-109C 1A61 1A63-1A64 AA7B AA7D",
  "11720-11721"]

def spacingMark : RangeSet :=
  (Category.spacingMark.difference (graphemeExtend.union separateMarks)).union
    (.ofList [0xE33, 0xEB3])

/-- The letters of Hangul that begin a syllable. -/
def leadingJamo : RangeSet := .ofHex ["1100-115F A960-A97C"]

/-- The vowels of Hangul, and signs like them. -/
def vowelJamo : RangeSet := .ofHex ["1160-11A7 D7B0-D7C6 16D63 16D67-16D6A"]

/-- The letters of Hangul that end a syllable. -/
def trailingJamo : RangeSet := .ofHex ["11A8-11FF D7CB-D7FB"]

/-- The syllables of Hangul without a letter at the end. -/
def openSyllables : RangeSet := .ofList ((List.range 399).map fun i => 0xAC00 + 28 * i)

/-- The syllables of Hangul with a letter at the end. -/
def closedSyllables : RangeSet := (RangeSet.ofHex ["AC00-D7A3"]).difference openSyllables

end GraphemeBreak

open GraphemeBreak in
/-- The values of `Grapheme_Cluster_Break`. -/
def graphemeBreaks : List NamedSet := [
  ⟨["cn", "control"], GraphemeBreak.control⟩, ⟨["cr"], carriageReturn⟩,
  ⟨["ex", "extend"], GraphemeBreak.extend⟩, ⟨["l"], leadingJamo⟩, ⟨["lf"], lineFeed⟩,
  ⟨["lv"], openSyllables⟩, ⟨["lvt"], closedSyllables⟩, ⟨["pp", "prepend"], prepend⟩,
  ⟨["ri", "regionalindicator"], regionalIndicator⟩,
  ⟨["sm", "spacingmark"], GraphemeBreak.spacingMark⟩, ⟨["t"], trailingJamo⟩, ⟨["v"], vowelJamo⟩,
  ⟨["zwj"], zeroWidthJoiner⟩]

/-! ## Sentences -/

namespace SentenceBreak

/-- The letters of Georgian, which begin sentences in either case. -/
def georgianLetters : RangeSet := .ofHex ["10D0-10FA 10FD-10FF 1C90-1CBA 1CBD-1CBF"]

def lower : RangeSet := lowercase.difference (graphemeExtend.union georgianLetters)

def upper : RangeSet := (uppercase.union titlecaseLetter).difference georgianLetters

def extend : RangeSet := Segment.extend.union zeroWidthJoiner

def otherLetter : RangeSet :=
  (alphabetic.difference (.unions [lower, upper, extend])).union (.ofList [0x5F3])

/-- Full stops, which may also stand within a sentence. -/
def fullStop : RangeSet := .ofHex ["2E 2024 FE52 FF0E"]

def terminator : RangeSet := sentenceTerminal.difference fullStop

def continues : RangeSet := .ofHex [
  "2C-2D 3A-3B 37E 55D 60C-60D 7F8 1802 1808 2013-2014 3001 FE10-FE11 FE13-FE14 FE31-FE32",
  "FE50-FE51 FE54-FE55 FE58 FE63 FF0C-FF0D FF1A-FF1B FF64"]

/-- Signs that are read as parts of numbers. -/
def signsOfNumbers : RangeSet := .ofHex ["600-605 66B-66C 6DD 890-891 8E2 19DA 110BD 110CD"]

def numeric : RangeSet := decimalNumber.union signsOfNumbers

/-- Formatting characters that do not count as such. -/
def otherFormat : RangeSet := .ofHex ["600-605 6DD 890-891 8E2 200C-200D 110BD 110CD E0020-E007F"]

def format : RangeSet := Category.format.difference otherFormat

/-- Brackets and quotation marks that other categories hold. -/
def ornamentalMarks : RangeSet := .ofHex ["275B-2760 2E00-2E01 2E06-2E08 2E0B 1F676-1F678"]

def close : RangeSet :=
  (RangeSet.unions [openPunctuation, closePunctuation, initialPunctuation, finalPunctuation,
    quotationMark, ornamentalMarks]).difference (.ofList [0xFF02, 0xFF07])

def separator : RangeSet := .ofHex ["85 2028-2029"]

def space : RangeSet := .ofHex ["9 B-C 20 A0 1680 2000-200A 202F 205F 3000"]

end SentenceBreak

open SentenceBreak in
/-- The values of `Sentence_Break`. -/
def sentenceBreaks : List NamedSet := [
  ⟨["at", "aterm"], fullStop⟩, ⟨["cl", "close"], close⟩, ⟨["cr"], carriageReturn⟩,
  ⟨["ex", "extend"], SentenceBreak.extend⟩, ⟨["fo", "format"], SentenceBreak.format⟩,
  ⟨["le", "oletter"], SentenceBreak.otherLetter⟩, ⟨["lf"], lineFeed⟩, ⟨["lo", "lower"], lower⟩,
  ⟨["nu", "numeric"], numeric⟩, ⟨["sc", "scontinue"], continues⟩,
  ⟨["se", "sep"], SentenceBreak.separator⟩, ⟨["sp"], space⟩, ⟨["st", "sterm"], terminator⟩,
  ⟨["up", "upper"], upper⟩]

/-! ## Words -/

namespace WordBreak

def extend : RangeSet := Segment.extend.union emojiModifier

def hebrewLetter : RangeSet := .ofHex [
  "5D0-5EA 5EF-5F2 FB1D FB1F-FB28 FB2A-FB36 FB38-FB3C FB3E FB40-FB41 FB43-FB44 FB46-FB4F"]

def katakana : RangeSet := .ofHex [
  "3031-3035 309B-309C 30A0-30FA 30FC-30FF 31F0-31FF 32D0-32FE 3300-3357 FF66-FF9D 1AFF0-1AFF3",
  "1AFF5-1AFFB 1AFFD-1AFFE 1B000 1B120-1B122 1B155 1B164-1B167"]

/-- The script of Hiragana. -/
def hiragana : RangeSet := (NamedSet.find? scripts "hira").getD .empty

/-- Letters of scripts that are written without spaces between words. -/
def unspacedLetters : RangeSet := .ofHex [
  "E01-E30 E32-E33 E40-E46 E81-E82 E84 E86-E8A E8C-EA3 EA5 EA7-EB0 EB2-EB3 EBD EC0-EC4 EC6 EDC-EDF",
  "1000-102A 103F 1050-1055 105A-105D 1061 1065-1066 106E-1070 1075-1081 108E 1780-17B3 17D7 17DC",
  "1950-196D 1970-1974 1980-19AB 19B0-19C9 1A20-1A54 1AA7 A9E0-A9E4 A9E6-A9EF A9FA-A9FE AA60-AA76",
  "AA7A AA7E-AAAF AAB1 AAB5-AAB6 AAB9-AABD AAC0 AAC2 AADB-AADD 11700-1171A 11740-11746"]

/-- Signs that are read as letters. -/
def signsInWords : RangeSet := .ofHex [
  "2C2-2C5 2D2-2D7 2DE-2DF 2E5-2EB 2ED 2EF-2FF 55A-55C 55E 58A 5F3 70F A708-A716 A720-A721",
  "A789-A78A AB5B"]

def letter : RangeSet :=
  (alphabetic.difference (.unions [ideographic, katakana, hiragana, extend, hebrewLetter,
    unspacedLetters])).union signsInWords

def connector : RangeSet := .ofHex ["5F 202F 203F-2040 2054 FE33-FE34 FE4D-FE4F FF3F"]

def withinLetters : RangeSet := .ofHex ["3A B7 387 55F 5F4 2027 FE13 FE55 FF1A"]

def withinNumbers : RangeSet := .ofHex ["2C 3B 37E 589 60C-60D 66C 7F8 2044 FE50 FE54 FF0C FF1B"]

def withinBoth : RangeSet := .ofHex ["2E 2018-2019 2024 FE52 FF07 FF0E"]

def numeric : RangeSet := SentenceBreak.numeric.difference (.ofList [0x66C])

/-- Formatting characters that do not count as such. -/
def otherFormat : RangeSet := .ofHex [
  "600-605 6DD 70F 890-891 8E2 200B-200D 110BD 110CD E0020-E007F"]

def format : RangeSet := Category.format.difference otherFormat

def newline : RangeSet := .ofHex ["B-C 85 2028-2029"]

def space : RangeSet := .ofHex ["20 1680 2000-2006 2008-200A 205F 3000"]

end WordBreak

open WordBreak in
/-- The values of `Word_Break`. -/
def wordBreaks : List NamedSet := [
  ⟨["cr"], carriageReturn⟩, ⟨["dq", "doublequote"], .ofList [0x22]⟩,
  ⟨["ex", "extendnumlet"], connector⟩, ⟨["extend"], WordBreak.extend⟩,
  ⟨["fo", "format"], WordBreak.format⟩, ⟨["hl", "hebrewletter"], hebrewLetter⟩,
  ⟨["ka", "katakana"], katakana⟩, ⟨["le", "aletter"], WordBreak.letter⟩, ⟨["lf"], lineFeed⟩,
  ⟨["mb", "midnumlet"], withinBoth⟩, ⟨["ml", "midletter"], withinLetters⟩,
  ⟨["mn", "midnum"], withinNumbers⟩, ⟨["nl", "newline"], newline⟩,
  ⟨["nu", "numeric"], WordBreak.numeric⟩, ⟨["ri", "regionalindicator"], regionalIndicator⟩,
  ⟨["sq", "singlequote"], .ofList [0x27]⟩, ⟨["wsegspace"], WordBreak.space⟩,
  ⟨["zwj"], zeroWidthJoiner⟩]

end FacetSearch.Unicode
