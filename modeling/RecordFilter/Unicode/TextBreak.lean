/-
# Breaks in text

Three properties say where text may be divided: into graphemes, into words and into sentences.
Each gives a code point one of a few values, and a code point without a value is of no interest to
it.  The values are defined by the rules of Unicode 16 from scripts, general categories and other
properties, so few tables are needed; values that a rule leaves to another value are taken out of
it.
-/
import RecordFilter.Unicode.Derived
import RecordFilter.Unicode.Script

namespace RecordFilter

namespace Unicode

/-! ## 1. Graphemes -/

/-- Marks that go with the character before them. -/
def graphemeExtension : CodeSet := graphemeExtend.union emojiModifier

/-- Letters and signs that are read with the letter after them. -/
def graphemePrefix : CodeSet :=
  (CodeSet.ofText
    "d4e d4f 111c2 111c4 113d1 113d2 1193f 11940 11941 11942 11a3a 11a3b 11a84 11a8a 11d46 11d47
     11f02 11f03").union prependedConcatenationMark

/-- Characters that stand by themselves and show nothing. -/
def graphemeControl : CodeSet :=
  let ignorable := (inCategories ["Cn"]).inter defaultIgnorableCodePoint
  ((inCategories ["Zl", "Zp", "Cc", "Cf"]).union ignorable).difference
    (.unionAll [.ofCodes [0x0A, 0x0D, 0x200C, 0x200D], prependedConcatenationMark,
      graphemeExtension])

/-- Marks with a width of their own.  Some of them do not go with the character before them. -/
def graphemeSpacingMark : CodeSet :=
  ((inCategories ["Mc"]).union (.ofCodes [0xE33, 0xEB3])).difference
    (graphemeExtension.union (.ofText
      "102b 102d 1038 1039 1062 1065 1067 106e 1083 1084 1087 108d 108f 1090 109a 109d 1a61 1a62
       1a63 1a65 aa7b aa7c aa7d aa7e 11720 11722"))

/-- The syllables of Hangul that end in their vowel. -/
def openSyllables : CodeSet := .ofCodes ((List.range 399).map fun i => 0xAC00 + 28 * i)

/-- The values of Grapheme_Cluster_Break by all their names. -/
def graphemeBreaks : List (List String × CodeSet) :=
  [(["CR"], .single '\r'),
    (["LF"], .single '\n'),
    (["Control", "CN"], graphemeControl),
    (["Extend", "EX"], graphemeExtension),
    (["ZWJ"], .range 0x200D 0x200D),
    (["Regional_Indicator", "RI"], regionalIndicator),
    (["Prepend", "PP"], graphemePrefix),
    (["SpacingMark", "SM"], graphemeSpacingMark),
    (["L"], .ofText "1100 1160 a960 a97d"),
    (["V"], .ofText "1160 11a8 d7b0 d7c7 16d63 16d64 16d67 16d6b"),
    (["T"], .ofText "11a8 1200 d7cb d7fc"),
    (["LV"], openSyllables),
    (["LVT"], (CodeSet.range 0xAC00 0xD7A3).difference openSyllables)]

/-! ## 2. Numbers, in words and in sentences -/

/-- Digits, and what is written before or between Arabic digits. -/
def breakNumeric : CodeSet :=
  digits.union (.ofText "600 606 66b 66c 6dd 6de 890 892 8e2 8e3 110bd 110be 110cd 110ce")

/-! ## 3. Words -/

/-- Marks that go with the character before them in a word. -/
def wordExtension : CodeSet := graphemeExtension.union (inCategories ["Mc"])

/-- Characters that show nothing and do not end a word. -/
def wordFormat : CodeSet :=
  (inCategories ["Cf"]).difference
    (.unionAll [.range 0x200B 0x200D, graphemePrefix, wordExtension])

/-- The letters of Japanese syllables that are written side by side in a word. -/
def wordKatakana : CodeSet :=
  (inScript "Kana").union (.ofText "3031 3036 309b 309d 30a0 30a1 30fc 30fd ff70 ff71")

/-- The letters of Hebrew, between which quotes may stand. -/
def wordHebrew : CodeSet := (inScript "Hebr").inter (inCategories ["Lo"])

/-- Modifiers and punctuation that count as letters of a word. -/
def wordLetterSigns : CodeSet := .ofText
  "2c2 2c6 2d2 2d8 2de 2e0 2e5 2ec 2ed 2ee 2ef 300 55a 55d 55e 55f 58a 58b 5f3 5f4 70f 710
   a708 a717 a720 a722 a789 a78b ab5b ab5c"

/-- The scripts whose words are not set apart, so that their letters say nothing about words. -/
def unspacedScripts : List String :=
  ["Ahom", "Khmr", "Lana", "Laoo", "Mymr", "Tale", "Talu", "Tavt", "Thai", "Hira"]

/-- The letters of words. -/
def wordLetter : CodeSet :=
  (alphabetic.union wordLetterSigns).difference
    (.unionAll [ideographic, wordKatakana, wordExtension, wordHebrew,
      scriptTable.selected unspacedScripts.contains])

/-- The values of Word_Break by all their names. -/
def wordBreaks : List (List String × CodeSet) :=
  [(["CR"], .single '\r'),
    (["LF"], .single '\n'),
    (["Newline", "NL"], .ofCodes [0x0B, 0x0C, 0x85, 0x2028, 0x2029]),
    (["Extend"], wordExtension),
    (["ZWJ"], .range 0x200D 0x200D),
    (["Regional_Indicator", "RI"], regionalIndicator),
    (["Format", "FO"], wordFormat),
    (["Katakana", "KA"], wordKatakana),
    (["Hebrew_Letter", "HL"], wordHebrew),
    (["ALetter", "LE"], wordLetter),
    (["Single_Quote", "SQ"], .single '\''),
    (["Double_Quote", "DQ"], .single '"'),
    (["MidNumLet", "MB"], .ofCodes [0x2E, 0x2018, 0x2019, 0x2024, 0xFE52, 0xFF07, 0xFF0E]),
    (["MidLetter", "ML"], .ofCodes [0x3A, 0xB7, 0x387, 0x55F, 0x5F4, 0x2027, 0xFE13, 0xFE55,
      0xFF1A]),
    (["MidNum", "MN"], .ofCodes [0x2C, 0x3B, 0x37E, 0x589, 0x60C, 0x60D, 0x66C, 0x7F8, 0x2044,
      0xFE50, 0xFE54, 0xFF0C, 0xFF1B]),
    (["Numeric", "NU"], breakNumeric),
    (["ExtendNumLet", "EX"], (inCategories ["Pc"]).union (.range 0x202F 0x202F)),
    (["WSegSpace"], (inCategories ["Zs"]).difference (.ofCodes [0xA0, 0x2007, 0x202F]))]

/-! ## 4. Sentences -/

/-- Marks that go with the character before them in a sentence. -/
def sentenceExtension : CodeSet :=
  .unionAll [graphemeExtend, inCategories ["Mc"], .range 0x200D 0x200D]

/-- Numbers of sentences have one more sign between digits. -/
def sentenceNumeric : CodeSet := breakNumeric.union (.range 0x66C 0x66C)

/-- Characters that show nothing and do not end a sentence. -/
def sentenceFormat : CodeSet :=
  (inCategories ["Cf"]).difference
    (.unionAll [.range 0x200C 0x200D, sentenceNumeric, sentenceExtension])

/-- Small letters.  Those of Georgian begin sentences too. -/
def sentenceLower : CodeSet :=
  lowercase.difference (graphemeExtend.union (.ofText "10d0 10fb 10fd 1100"))

/-- Capitals, without the block letters of Georgian. -/
def sentenceUpper : CodeSet :=
  (uppercase.union (inCategories ["Lt"])).difference (.ofText "1c90 1cbb 1cbd 1cc0")

/-- Letters of neither case. -/
def sentenceLetter : CodeSet :=
  (alphabetic.union (.range 0x5F3 0x5F3)).difference
    (.unionAll [sentenceLower, sentenceUpper, sentenceExtension])

/-- The ends of sentences that may also be within one. -/
def fullStops : CodeSet := .ofCodes [0x2E, 0x2024, 0xFE52, 0xFF0E]

/-- Quotation marks and brackets. -/
def sentenceClose : CodeSet :=
  (inCategories ["Ps", "Pe", "Pi", "Pf"]).union
    (.ofText "22 23 27 28 275b 2761 2e00 2e02 2e06 2e09 2e0b 2e0c 1f676 1f679")

/-- The values of Sentence_Break by all their names. -/
def sentenceBreaks : List (List String × CodeSet) :=
  [(["CR"], .single '\r'),
    (["LF"], .single '\n'),
    (["Extend", "EX"], sentenceExtension),
    (["Sep", "SE"], .ofCodes [0x85, 0x2028, 0x2029]),
    (["Format", "FO"], sentenceFormat),
    (["Sp"], whiteSpace.difference (.ofCodes [0x0A, 0x0D, 0x85, 0x2028, 0x2029])),
    (["Lower", "LO"], sentenceLower),
    (["Upper", "UP"], sentenceUpper),
    (["OLetter", "LE"], sentenceLetter),
    (["Numeric", "NU"], sentenceNumeric),
    (["ATerm", "AT"], fullStops),
    (["SContinue", "SC"], .ofText
      "2c 2e 3a 3c 37e 37f 55d 55e 60c 60e 7f8 7f9 1802 1803 1808 1809 2013 2015 3001 3002
       fe10 fe12 fe13 fe15 fe31 fe33 fe50 fe52 fe54 fe56 fe58 fe59 fe63 fe64 ff0c ff0e ff1a ff1c
       ff64 ff65"),
    (["STerm", "ST"], sentenceTerminal.difference fullStops),
    (["Close", "CL"], sentenceClose)]

end Unicode

end RecordFilter
