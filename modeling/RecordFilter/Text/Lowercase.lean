/-
# Lower case

The lower case of a text.  Every character is mapped by itself but one: a capital sigma becomes a
final sigma where it ends a word, that is, where a character with case comes before it and none
comes after it, characters that do not count being passed over on both sides.
-/
import RecordFilter.Unicode.LetterCase

namespace RecordFilter

namespace Text

/-- Does a character with case come first, past those that do not count? -/
def startsCased (cs : List Char) : Bool :=
  match cs.dropWhile Unicode.isCaseIgnorable with
  | c :: _ => Unicode.isCased c
  | [] => false

/-- The lower case of a capital sigma between the characters before it, nearest first, and those
after it. -/
def lowercaseSigma (before after : List Char) : Char :=
  if startsCased before && !startsCased after then 'ς' else 'σ'

/-- The lower case of characters that come after others, which are given nearest first. -/
def lowercaseAfter : List Char → List Char → List Char
  | _, [] => []
  | before, c :: rest =>
    (if c = 'Σ' then [lowercaseSigma before rest] else Unicode.lowercaseChar c)
      ++ lowercaseAfter (c :: before) rest

/-- The lower case of a text. -/
def lowercase (s : String) : String := String.ofList (lowercaseAfter [] s.toList)

end Text

end RecordFilter
