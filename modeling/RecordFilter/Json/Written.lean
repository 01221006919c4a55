/-
# JSON as it is written

The grammar of JSON text (RFC 8259), without the limits that meaning puts on it.  The result keeps
what meaning needs: repeated names, the digits of numerals, and the code units of `\u` escapes,
paired or not.  Text that is not one value with blanks around it is refused.

Each reader takes the characters that remain and returns what it read with the characters after
it.  The readers of values recurse on a bound that the length of the text provides.
-/
namespace RecordFilter

/-- A numeral as written: sign, digits before the point and after it, and a decimal exponent. -/
structure WrittenNumeral where
  negative : Bool
  whole : List Char
  places : Option (List Char)
  exponent : Option Int

/-- A character of a written string, or the code unit of a `\u` escape. -/
inductive StringMark where
  | char (c : Char)
  | unit (code : Nat)

/-- A JSON value as written. -/
inductive WrittenJson where
  | null
  | bool (b : Bool)
  | number (n : WrittenNumeral)
  | string (marks : List StringMark)
  | array (items : List WrittenJson)
  | object (members : List (List StringMark × WrittenJson))

namespace WrittenJson

/-! ## 1. Blanks, digits and fixed words -/

/-- The four blanks of JSON. -/
def isBlank (c : Char) : Bool := c == ' ' || c == '\n' || c == '\t' || c == '\r'

/-- What follows the blanks at the front. -/
def skipBlanks (cs : List Char) : List Char := cs.dropWhile isBlank

/-- The decimal digits at the front, and what follows them. -/
def splitDigits (cs : List Char) : List Char × List Char :=
  (cs.takeWhile Char.isDigit, cs.dropWhile Char.isDigit)

/-- The number that decimal digits denote. -/
def digitsValue (digits : List Char) : Nat :=
  digits.foldl (fun n c => 10 * n + (c.toNat - 48)) 0

/-- What follows a fixed word. -/
def afterWord : List Char → List Char → Option (List Char)
  | [], cs => some cs
  | w :: word, c :: cs => if w = c then afterWord word cs else none
  | _ :: _, [] => none

/-! ## 2. Numerals -/

/-- The exponent part, when there is one: its value and what follows. -/
def readExponent (cs : List Char) : Option (Option Int × List Char) :=
  match cs with
  | e :: rest =>
    if e == 'e' || e == 'E' then
      let (negative, rest) := match rest with
        | '-' :: rest => (true, rest)
        | '+' :: rest => (false, rest)
        | rest => (false, rest)
      let (digits, rest) := splitDigits rest
      if digits.isEmpty then none
      else
        let n : Int := digitsValue digits
        some (some (if negative then -n else n), rest)
    else some (none, cs)
  | [] => some (none, [])

/-- The fraction part, when there is one: its digits and what follows. -/
def readFraction (cs : List Char) : Option (Option (List Char) × List Char) :=
  match cs with
  | '.' :: rest =>
    let (digits, rest) := splitDigits rest
    if digits.isEmpty then none else some (some digits, rest)
  | cs => some (none, cs)

/-- A numeral.  No zero stands before another digit of the whole part. -/
def readNumeral (cs : List Char) : Option (WrittenNumeral × List Char) := do
  let (negative, cs) := match cs with
    | '-' :: rest => (true, rest)
    | cs => (false, cs)
  let (whole, cs) := splitDigits cs
  if whole.isEmpty || (whole.head? == some '0' && whole.length != 1) then none
  else
    let (places, cs) ← readFraction cs
    let (exponent, cs) ← readExponent cs
    some ({ negative, whole, places, exponent }, cs)

/-! ## 3. Strings -/

/-- The value of a hexadecimal digit. -/
def hexValue (c : Char) : Option Nat :=
  if c.isDigit then some (c.toNat - 48)
  else if 'a' ≤ c && c ≤ 'f' then some (c.toNat - 87)
  else if 'A' ≤ c && c ≤ 'F' then some (c.toNat - 55)
  else none

/-- The character that a one-letter escape stands for. -/
def escaped : Char → Option Char
  | '"' => some '"'
  | '\\' => some '\\'
  | '/' => some '/'
  | 'b' => some '\x08'
  | 'f' => some '\x0c'
  | 'n' => some '\n'
  | 'r' => some '\r'
  | 't' => some '\t'
  | _ => none

/-- The rest of a string after its opening quote.  Control characters must be escaped. -/
def readString : List Char → Option (List StringMark × List Char)
  | '"' :: rest => some ([], rest)
  | '\\' :: 'u' :: a :: b :: c :: d :: rest => do
    let code := (((← hexValue a) * 16 + (← hexValue b)) * 16 + (← hexValue c)) * 16 + (← hexValue d)
    let (marks, rest) ← readString rest
    some (.unit code :: marks, rest)
  | '\\' :: e :: rest => do
    let c ← escaped e
    let (marks, rest) ← readString rest
    some (.char c :: marks, rest)
  | c :: rest =>
    if c.toNat < 0x20 || c == '\\' then none
    else do
      let (marks, rest) ← readString rest
      some (.char c :: marks, rest)
  | [] => none

/-! ## 4. Values -/

mutual

/-- A value, blanks before it allowed. -/
def readValue : Nat → List Char → Option (WrittenJson × List Char)
  | 0, _ => none
  | bound + 1, cs =>
    match skipBlanks cs with
    | 'n' :: rest => (afterWord ['u', 'l', 'l'] rest).map (fun rest => (.null, rest))
    | 't' :: rest => (afterWord ['r', 'u', 'e'] rest).map (fun rest => (.bool true, rest))
    | 'f' :: rest => (afterWord ['a', 'l', 's', 'e'] rest).map (fun rest => (.bool false, rest))
    | '"' :: rest => (readString rest).map (fun (marks, rest) => (.string marks, rest))
    | '[' :: rest =>
      match skipBlanks rest with
      | ']' :: rest => some (.array [], rest)
      | rest => (readItems bound rest).map (fun (items, rest) => (.array items, rest))
    | '{' :: rest =>
      match skipBlanks rest with
      | '}' :: rest => some (.object [], rest)
      | rest => (readMembers bound rest).map (fun (members, rest) => (.object members, rest))
    | cs => (readNumeral cs).map (fun (n, rest) => (.number n, rest))

/-- The items of an array, up to its closing bracket. -/
def readItems : Nat → List Char → Option (List WrittenJson × List Char)
  | 0, _ => none
  | bound + 1, cs => do
    let (item, rest) ← readValue bound cs
    match skipBlanks rest with
    | ',' :: rest =>
      let (items, rest) ← readItems bound rest
      some (item :: items, rest)
    | ']' :: rest => some ([item], rest)
    | _ => none

/-- The members of an object, up to its closing brace. -/
def readMembers : Nat → List Char → Option (List (List StringMark × WrittenJson) × List Char)
  | 0, _ => none
  | bound + 1, cs =>
    match skipBlanks cs with
    | '"' :: rest => do
      let (name, rest) ← readString rest
      match skipBlanks rest with
      | ':' :: rest =>
        let (value, rest) ← readValue bound rest
        match skipBlanks rest with
        | ',' :: rest =>
          let (members, rest) ← readMembers bound rest
          some ((name, value) :: members, rest)
        | '}' :: rest => some ([(name, value)], rest)
        | _ => none
      | _ => none
    | _ => none

end

/-- The value that a text writes, when the text is one value with blanks around it. -/
def read (text : String) : Option WrittenJson :=
  let cs := text.toList
  match readValue (2 * cs.length + 1) cs with
  | some (value, rest) => if (skipBlanks rest).isEmpty then some value else none
  | none => none

end WrittenJson

end RecordFilter
