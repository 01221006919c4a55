/-
# Derived properties

The properties that Unicode 16 derives from general categories, listed properties and case maps,
and the classes of characters that patterns have short names for.  Where a case map of version 17
goes further, the code points that version 16 has not assigned are left out.
-/
import RecordFilter.Unicode.CaseFolding
import RecordFilter.Unicode.GeneralCategory
import RecordFilter.Unicode.PropertySet

namespace RecordFilter

namespace Unicode

/-! ## 1. Derived properties -/

/-- The code points with the property Lowercase. -/
def lowercase : CodeSet := (inCategories ["Ll"]).union otherLowercase

/-- The code points with the property Uppercase. -/
def uppercase : CodeSet := (inCategories ["Lu"]).union otherUppercase

/-- The code points with the property Alphabetic. -/
def alphabetic : CodeSet :=
  .unionAll [lowercase, uppercase, inCategories ["Lt", "Lm", "Lo", "Nl"], otherAlphabetic]

/-- The code points with the property Math. -/
def math : CodeSet := (inCategories ["Sm"]).union otherMath

/-- The code points with the property Cased. -/
def cased : CodeSet := .unionAll [lowercase, uppercase, inCategories ["Lt"]]

/-- The code points with the property Case_Ignorable: marks, format characters and modifiers, and
the punctuation that may stand inside a word. -/
def caseIgnorable : CodeSet :=
  (inCategories ["Mn", "Me", "Cf", "Lm", "Sk"]).union
    (.ofCodes [0x27, 0x2E, 0x3A, 0xB7, 0x387, 0x55F, 0x5F4, 0x2018, 0x2019, 0x2024, 0x2027, 0xFE13,
      0xFE52, 0xFE55, 0xFF07, 0xFF0E, 0xFF1A])

/-- What is written in syntax cannot be part of an identifier. -/
def patternCharacters : CodeSet := patternSyntax.union patternWhiteSpace

/-- The code points with the property ID_Start. -/
def idStart : CodeSet :=
  ((inCategories ["Lu", "Ll", "Lt", "Lm", "Lo", "Nl"]).union otherIdStart).difference
    patternCharacters

/-- The code points with the property ID_Continue. -/
def idContinue : CodeSet :=
  (CodeSet.unionAll [idStart, inCategories ["Mn", "Mc", "Nd", "Pc"], otherIdContinue]).difference
    patternCharacters

/-- The identifier characters whose compatibility forms are not identifiers. -/
def changedByCompatibility : CodeSet := .ofText
  "37a 37b 309b 309d fc5e fc64 fdfa fdfc fe70 fe71 fe72 fe73 fe74 fe75 fe76 fe77 fe78 fe79 fe7a
   fe7b fe7c fe7d fe7e fe7f"

/-- The code points with the property XID_Start. -/
def xidStart : CodeSet :=
  (idStart.difference changedByCompatibility).difference
    (.ofText "e33 e34 eb3 eb4 ff9e ffa0")

/-- The code points with the property XID_Continue. -/
def xidContinue : CodeSet := idContinue.difference changedByCompatibility

/-- The code points with the property Grapheme_Extend. -/
def graphemeExtend : CodeSet := (inCategories ["Mn", "Me"]).union otherGraphemeExtend

/-- The code points with the property Grapheme_Base. -/
def graphemeBase : CodeSet :=
  ((inCategories ["Cc", "Cf", "Co", "Cn", "Zl", "Zp"]).union (.range 0xD800 0xDFFF)).complement
    |>.difference graphemeExtend

/-- The code points that have a general category. -/
def assigned : CodeSet := (inCategories ["Cn"]).complement

/-- The assigned code points with a lower case of one character, each with that character. -/
def lowercasePairs : List (Nat × Nat) :=
  (lowercaseRuns.flatMap CaseRun.pairs).filter fun (code, _) =>
    CodeSet.memberOf code assigned.changes

/-- The code points with the property Changes_When_Lowercased. -/
def changesWhenLowercased : CodeSet :=
  (CodeSet.ofCodes (lowercasePairs.map Prod.fst)).union (.range 0x130 0x130)

/-- A small letter is changed by its capital, and some letters have a capital that does not lead
back to them. -/
def changesWhenUppercased : CodeSet :=
  (CodeSet.ofCodes (lowercasePairs.map Prod.snd)).union (.ofText
    "b5 b6 131 132 149 14a 17f 180 1c5 1c6 1c8 1c9 1cb 1cc 1f0 1f1 1f2 1f3 345 346 390 391 3b0 3b1
     3c2 3c3 3d0 3d2 3d5 3d7 3f0 3f2 3f5 3f6 587 588 1c80 1c89 1e96 1e9c 1f50 1f51 1f52 1f53 1f54
     1f55 1f56 1f57 1f88 1f90 1f98 1fa0 1fa8 1fb0 1fb2 1fb3 1fb4 1fb5 1fb6 1fb8 1fbc 1fbd 1fbe 1fbf
     1fc2 1fc3 1fc4 1fc5 1fc6 1fc8 1fcc 1fcd 1fd2 1fd4 1fd6 1fd8 1fe2 1fe5 1fe6 1fe8 1ff2 1ff3 1ff4
     1ff5 1ff6 1ff8 1ffc 1ffd fb00 fb07 fb13 fb18")

/-- The code points with the property Changes_When_Titlecased. -/
def changesWhenTitlecased : CodeSet :=
  (changesWhenUppercased.difference (.ofText
    "1c5 1c6 1c8 1c9 1cb 1cc 1f2 1f3 10d0 10fb 10fd 1100 1f88 1f90 1f98 1fa0 1fa8 1fb0 1fbc 1fbd
     1fcc 1fcd 1ffc 1ffd")).union (.ofText "1c4 1c5 1c7 1c8 1ca 1cb 1f1 1f2")

/-- The code points with the property Changes_When_Casefolded. -/
def changesWhenCasefolded : CodeSet :=
  let paired := CodeSet.ofCodes ((foldingRuns.flatMap CaseRun.pairs).map Prod.fst)
  (paired.difference (.ofText "1fbe 1fbf 1fd3 1fd4 1fe3 1fe4")).union (.ofText
    "df e0 130 131 149 14a 587 588 1e9a 1e9b 1f80 1f88 1f90 1f98 1fa0 1fa8 1fb2 1fb5 1fb7 1fb8 1fc2
     1fc5 1fc7 1fc8 1ff2 1ff5 1ff7 1ff8 fb00 fb05 fb06 fb07 fb13 fb18")

/-- The code points with the property Changes_When_Casemapped. -/
def changesWhenCasemapped : CodeSet :=
  .unionAll [changesWhenLowercased, changesWhenUppercased, changesWhenTitlecased]

/-- The derived properties by all their names. -/
def derivedProperties : List (List String × CodeSet) :=
  [(["Alphabetic", "Alpha"], alphabetic),
    (["Case_Ignorable", "CI"], caseIgnorable),
    (["Cased"], cased),
    (["Changes_When_Casefolded", "CWCF"], changesWhenCasefolded),
    (["Changes_When_Casemapped", "CWCM"], changesWhenCasemapped),
    (["Changes_When_Lowercased", "CWL"], changesWhenLowercased),
    (["Changes_When_Titlecased", "CWT"], changesWhenTitlecased),
    (["Changes_When_Uppercased", "CWU"], changesWhenUppercased),
    (["Grapheme_Base", "Gr_Base"], graphemeBase),
    (["Grapheme_Extend", "Gr_Ext"], graphemeExtend),
    (["ID_Continue", "IDC"], idContinue),
    (["ID_Start", "IDS"], idStart),
    (["Lowercase", "Lower"], lowercase),
    (["Math"], math),
    (["Uppercase", "Upper"], uppercase),
    (["XID_Continue", "XIDC"], xidContinue),
    (["XID_Start", "XIDS"], xidStart)]

/-! ## 2. The classes that patterns abbreviate -/

/-- Decimal digits. -/
def digits : CodeSet := inCategories ["Nd"]

/-- The characters of words: letters, marks, digits, connectors and joiners. -/
def wordCharacters : CodeSet :=
  .unionAll [alphabetic, inCategories ["Mn", "Mc", "Me", "Nd", "Pc"], joinControl]

/-! ## 3. Letters and numbers of names

A name that a pattern gives to a group is made of letters and numbers as Unicode 17 has them. -/

/-- The letters that version 17 added. -/
def addedLetters : CodeSet := .ofText
  "88f 890 c5c c5d cdc cdd a7ce a7d0 a7d2 a7d3 a7d4 a7d5 a7f1 a7f2 10940 1095a 10ec5 10ec8
   10efa 10efc 11b60 11b68 11db0 11ddc 16ea0 16eb9 16ebb 16ed4 16ff2 16ff7 187f8 18800
   18d09 18d1f 18d80 18df3 1e6c0 1e6df 1e6e0 1e6f6 1e6fe 1e700 2b73a 2b740 2cea2 2ceae
   323b0 3347a"

/-- Letters of every kind. -/
def nameLetters : CodeSet := alphabetic.union addedLetters

/-- Letters and numbers of every kind. -/
def nameCharacters : CodeSet :=
  .unionAll [nameLetters, inCategories ["Nd", "Nl", "No"], .range 0x11DE0 0x11DE9]

end Unicode

end RecordFilter
