/-
# Reading JSON text

From JSON as written to the tree it means.  Meaning adds these rules to the grammar: containers
nest at most 127 deep; two `\u` escapes that are a surrogate pair make one character, and a lone
surrogate is refused; an integer that 64 bits can hold is kept as an integer, `-0` and every other
numeral becomes a binary64 number by way of scientific notation, and a numeral beyond the greatest
finite number is refused; a repeated name keeps its first place and its last value.
-/
import RecordFilter.Entries
import RecordFilter.Json.Basic
import RecordFilter.Json.Written
import RecordFilter.Number.Scientific

namespace RecordFilter

/-! ## 1. Strings -/

/-- The characters of a written string; none when a surrogate stands alone. -/
def StringMark.characters : List StringMark → Option (List Char)
  | [] => some []
  | .char c :: rest => (c :: ·) <$> StringMark.characters rest
  | .unit high :: rest =>
    if 0xD800 ≤ high && high < 0xDC00 then
      match rest with
      | .unit low :: rest =>
        if 0xDC00 ≤ low && low < 0xE000 then
          (Char.ofNat (0x10000 + (high - 0xD800) * 0x400 + (low - 0xDC00)) :: ·)
            <$> StringMark.characters rest
        else none
      | _ => none
    else if 0xDC00 ≤ high && high < 0xE000 then none
    else (Char.ofNat high :: ·) <$> StringMark.characters rest

/-- The string that is written. -/
def StringMark.text (marks : List StringMark) : Option String :=
  String.ofList <$> StringMark.characters marks

/-! ## 2. Numerals -/

/-- The finite binary64 number with this sign and magnitude, as a numeral. -/
def Numeral.ofReal? (x : Binary64) : Option Numeral :=
  if h : x.isFinite = true then some (.real x h) else none

/-- The integer of a numeral without fraction and exponent, when 64 bits can hold it.  The
integers have no negative zero. -/
def WrittenNumeral.integer? (n : WrittenNumeral) :
    Option (BoundedInt (-0x8000000000000000) 0xffffffffffffffff) :=
  let value := WrittenJson.digitsValue n.whole
  if n.places.isSome || n.exponent.isSome || (n.negative && value == 0) then none
  else BoundedInt.ofInt? (if n.negative then -(value : Int) else value)

/-- The binary64 number of a numeral; none when it is too great. -/
def WrittenNumeral.real? (n : WrittenNumeral) : Option Numeral := do
  let decimal := Scientific.ofDigits n.whole (n.places.getD []) (n.exponent.getD 0)
  let x ← decimal.toBinary64?
  Numeral.ofReal? (.ofMagnitude n.negative x.magnitude)

/-- What a written numeral means. -/
def WrittenNumeral.meaning (n : WrittenNumeral) : Option Numeral :=
  match n.integer? with
  | some integer => some (.integer integer)
  | none => n.real?

/-! ## 3. Trees -/

mutual

/-- The tree that is meant, when its containers nest at most `room` deep. -/
def WrittenJson.meaning : WrittenJson → Nat → Option Json
  | .null, _ => some .null
  | .bool b, _ => some (.bool b)
  | .number n, _ => .number <$> n.meaning
  | .string marks, _ => .string <$> StringMark.text marks
  | .array _, 0 => none
  | .array items, room + 1 => .array <$> WrittenJson.itemsMeaning items room
  | .object _, 0 => none
  | .object members, room + 1 =>
    (fun members => .object (Entries.ofList members)) <$> WrittenJson.membersMeaning members room

/-- The items of an array, each with the same room. -/
def WrittenJson.itemsMeaning : List WrittenJson → Nat → Option (List Json)
  | [], _ => some []
  | item :: rest, room => do
    let item ← WrittenJson.meaning item room
    let rest ← WrittenJson.itemsMeaning rest room
    some (item :: rest)

/-- The members of an object, repeated names included. -/
def WrittenJson.membersMeaning :
    List (List StringMark × WrittenJson) → Nat → Option (List (String × Json))
  | [], _ => some []
  | (name, value) :: rest, room => do
    let name ← StringMark.text name
    let value ← WrittenJson.meaning value room
    let rest ← WrittenJson.membersMeaning rest room
    some ((name, value) :: rest)

end

namespace Json

/-- How deep the containers of a text may nest. -/
def nestingLimit : Nat := 127

/-- The tree that a text means; none when the text is not JSON or breaks a rule of meaning. -/
def ofText? (text : String) : Option Json := do
  (← WrittenJson.read text).meaning nestingLimit

end Json

end RecordFilter
