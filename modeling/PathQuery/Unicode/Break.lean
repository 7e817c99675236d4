import PathQuery.Unicode.Property
import PathQuery.Unicode.Script

/-!
# Breaks in texts

A text breaks into graphemes, words and sentences between characters of certain kinds. There are three
divisions of the characters into kinds, one for each sort of break, and characters beside them that have
no kind. The divisions are those of Unicode 15.0, put together from other properties as far as these
decide them.

## Main definitions

* `graphemeBreaks`, `wordBreaks`, `sentenceBreaks` — the kinds of characters, with their names.
-/

namespace PathQuery.Unicode

/-- Regional indicators. -/
def regionalIndicator (n : Nat) : Bool := 0x1F1E6 ≤ n && n ≤ 0x1F1FF

/-! ## Graphemes -/

/-- Characters that belong to the grapheme in front of them. -/
def graphemeExtending (n : Nat) : Bool := graphemeExtend n || emojiModifier.contains n

/-- Consonants that are written with the one behind them. -/
def prefixedConsonant : RangeTable := RangeTable.ofText
  "D4E 111C2-111C3 1193F 11941 11A3A 11A84-11A89 11D46 11F02"

/-- Characters that belong to the grapheme behind them. -/
def graphemePrepended (n : Nat) : Bool :=
  prependedConcatenationMark.contains n || prefixedConsonant.contains n

/-- Line ends and joiners, which are kinds of their own where they matter. -/
def graphemeSeparate : RangeTable := RangeTable.ofText "A D 200C-200D"

/-- Characters that are a grapheme each. -/
def graphemeControl (n : Nat) : Bool :=
  ([Category.zl, .zp, .cc, .cf].contains (category n)
      || (category n = .cn && defaultIgnorableCodePoint.contains n))
    && !graphemeSeparate.contains n && !prependedConcatenationMark.contains n && !graphemeExtending n

/-- Spacing marks that do not belong to the grapheme in front of them. -/
def separateMark : RangeTable := RangeTable.ofText
  "102B-102C 1038 1062-1064 1067-106D 1083 1087-108C 108F 109A-109C 1A61 1A63-1A64 AA7B AA7D
  11720-11721"

/-- Spacing marks that belong to the grapheme in front of them, and two vowel signs that do. -/
def graphemeSpacingMark (n : Nat) : Bool :=
  (category n = .mc || n = 0xE33 || n = 0xEB3) && !graphemeExtending n && !separateMark.contains n

/-- Whether a code point is one of the syllables that are put together from letters. -/
def isSyllable (n : Nat) : Bool := 0xAC00 ≤ n && n ≤ 0xD7A3

/-- Whether a syllable has no final consonant. There are 27 of those. -/
def isOpenSyllable (n : Nat) : Bool := isSyllable n && (n - 0xAC00) % 28 = 0

/-- The kinds of characters that graphemes break between. -/
def graphemeBreaks : List (List String × (Nat → Bool)) :=
  [(["CR"], fun n => n = 0xD),
   (["LF"], fun n => n = 0xA),
   (["Control", "CN"], graphemeControl),
   (["Extend", "EX"], graphemeExtending),
   (["Prepend", "PP"], graphemePrepended),
   (["SpacingMark", "SM"], graphemeSpacingMark),
   (["L"], (RangeTable.ofText "1100-115F A960-A97C").contains),
   (["V"], (RangeTable.ofText "1160-11A7 D7B0-D7C6").contains),
   (["T"], (RangeTable.ofText "11A8-11FF D7CB-D7FB").contains),
   (["LV"], isOpenSyllable),
   (["LVT"], fun n => isSyllable n && !isOpenSyllable n),
   (["Regional_Indicator", "RI"], regionalIndicator),
   (["ZWJ"], fun n => n = 0x200D)]

/-! ## Words -/

/-- Characters that belong to the word in front of them. -/
def wordExtending (n : Nat) : Bool :=
  (graphemeExtending n || category n = .mc) && n ≠ 0x200D

/-- Characters of scripts that are written without blanks between words. -/
def complexContext : RangeTable := RangeTable.ofText
  "E01-E3A E40-E4E E81-E82 E84 E86-E8A E8C-EA3 EA5 EA7-EBD EC0-EC4 EC6 EC8-ECE EDC-EDF 1000-103F
  1050-108F 109A-109F 1780-17D3 17D7 17DC-17DD 1950-196D 1970-1974 1980-19AB 19B0-19C9 19DA
  19DE-19DF 1A20-1A5E 1A60-1A7C 1AA0-1AAD A9E0-A9EF A9FA-A9FE AA60-AAC2 AADB-AADF 11700-1171A
  1171D-1172B 1173A-1173B 1173F-11746"

/-- Characters of katakana words. -/
def katakana (n : Nat) : Bool :=
  script n == "Kana" || (RangeTable.ofText "3031-3035 309B-309C 30A0 30FC FF70").contains n

/-- Hebrew letters. -/
def hebrewLetter (n : Nat) : Bool := script n == "Hebr" && category n = .lo

/-- Signs that are taken for letters in words. -/
def letterLike : RangeTable := RangeTable.ofText
  "2C2-2C5 2D2-2D7 2DE-2DF 2E5-2EB 2ED 2EF-2FF 55A-55C 55E 58A 5F3 A708-A716 A720-A721 A789-A78A
  AB5B"

/-- Letters of words that are written with blanks between them. -/
def wordLetter (n : Nat) : Bool :=
  (alphabetic n || letterLike.contains n) && !(ideographic.contains n || katakana n
    || complexContext.contains n || script n == "Hira" || wordExtending n || hebrewLetter n)

/-- Format controls that are no joiners or blanks. -/
def wordFormat (n : Nat) : Bool :=
  category n = .cf && !(RangeTable.ofText "200B-200D").contains n && !wordExtending n

/-- Blanks that a line may be broken at. -/
def breakingSpace (n : Nat) : Bool := category n = .zs && n ≠ 0xA0 && n ≠ 0x2007 && n ≠ 0x202F

/-- The kinds of characters that words break between. -/
def wordBreaks : List (List String × (Nat → Bool)) :=
  [(["CR"], fun n => n = 0xD),
   (["LF"], fun n => n = 0xA),
   (["Newline", "NL"], (RangeTable.ofText "B-C 85 2028-2029").contains),
   (["Extend"], wordExtending),
   (["ZWJ"], fun n => n = 0x200D),
   (["Format", "FO"], wordFormat),
   (["Katakana", "KA"], katakana),
   (["Hebrew_Letter", "HL"], hebrewLetter),
   (["ALetter", "LE"], wordLetter),
   (["Single_Quote", "SQ"], fun n => n = 0x27),
   (["Double_Quote", "DQ"], fun n => n = 0x22),
   (["MidNumLet", "MB"], (RangeTable.ofText "2E 2018-2019 2024 FE52 FF07 FF0E").contains),
   (["MidLetter", "ML"], (RangeTable.ofText "3A B7 387 55F 5F4 2027 FE13 FE55 FF1A").contains),
   (["MidNum", "MN"],
     (RangeTable.ofText
       "2C 3B 37E 589 60C-60D 66C 7F8 2044 FE10 FE14 FE50 FE54 FF0C FF1B").contains),
   (["Numeric", "NU"], fun n => category n = .nd || n = 0x66B),
   (["ExtendNumLet", "EX"], fun n => category n = .pc || n = 0x202F),
   (["WSegSpace"], breakingSpace),
   (["Regional_Indicator", "RI"], regionalIndicator)]

/-! ## Sentences -/

/-- Characters that belong to the one in front of them. -/
def sentenceExtending (n : Nat) : Bool := graphemeExtend n || category n = .mc || n = 0x200D

/-- Ends of paragraphs, apart from those in ASCII. -/
def paragraphEnd : RangeTable := RangeTable.ofText "85 2028-2029"

/-- Blanks within a paragraph. -/
def sentenceSpace (n : Nat) : Bool := whiteSpace n && !paragraphEnd.contains n && n ≠ 0xA && n ≠ 0xD

/-- Letters that a sentence does not begin with. -/
def sentenceLower (n : Nat) : Bool :=
  lowercase n && !graphemeExtend n && !titlecaseLowercase.contains n

/-- Letters that a sentence may begin with. -/
def sentenceUpper (n : Nat) : Bool :=
  (category n = .lt || uppercase n) && !(RangeTable.ofText "1C90-1CBA 1CBD-1CBF").contains n

/-- Letters without case. -/
def sentenceLetter (n : Nat) : Bool :=
  (alphabetic n || n = 0x5F3) && !(sentenceLower n || sentenceUpper n || sentenceExtending n)

/-- Full stops, which need not end a sentence. -/
def fullStop : RangeTable := RangeTable.ofText "2E 2024 FE52 FF0E"

/-- Other ends of sentences. -/
def sentenceEnd (n : Nat) : Bool := sentenceTerminal.contains n && !fullStop.contains n

/-- Quotation marks that may be behind the end of a sentence. -/
def closingQuotation : RangeTable := RangeTable.ofText
  "22 27 AB BB 2018-2019 201B-201D 201F 2039-203A 275B-2760 2E00-2E0D 2E1C-2E1D 2E20-2E21
  1F676-1F678"

/-- Brackets and quotation marks. -/
def sentenceClose (n : Nat) : Bool :=
  (category n = .ps || category n = .pe || closingQuotation.contains n)
    && !fullStop.contains n && !sentenceEnd n

/-- The kinds of characters that sentences break between. -/
def sentenceBreaks : List (List String × (Nat → Bool)) :=
  [(["CR"], fun n => n = 0xD),
   (["LF"], fun n => n = 0xA),
   (["Sep", "SE"], paragraphEnd.contains),
   (["Extend", "EX"], sentenceExtending),
   (["Format", "FO"], fun n => category n = .cf && !sentenceExtending n),
   (["Sp"], sentenceSpace),
   (["Lower", "LO"], sentenceLower),
   (["Upper", "UP"], sentenceUpper),
   (["OLetter", "LE"], sentenceLetter),
   (["Numeric", "NU"], fun n => category n = .nd || n = 0x66B || n = 0x66C),
   (["ATerm", "AT"], fullStop.contains),
   (["STerm", "ST"], sentenceEnd),
   (["Close", "CL"], sentenceClose),
   (["SContinue", "SC"],
     (RangeTable.ofText
       "2C-2D 3A 55D 60C-60D 7F8 1802 1808 2013-2014 3001 FE10-FE11 FE13 FE31-FE32 FE50-FE51 FE55
       FE58 FE63 FF0C-FF0D FF1A FF64").contains)]

end PathQuery.Unicode
