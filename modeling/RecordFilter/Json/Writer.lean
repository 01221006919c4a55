/-
# Writing JSON text

Compact text: no blanks, strings with the fewest escapes, and for a finite binary64 number the
shortest decimal that reads back.  A decimal is written positionally, with at least one digit
after the point, when its leading digit counts at least `10 ^ -5` and at most `10 ^ 15`; otherwise
as one digit, the rest after a point, and a signed exponent.
-/
import RecordFilter.Json.Basic
import RecordFilter.Number.Shortest

namespace RecordFilter

/-! ## 1. Numbers -/

/-- The text of a decimal that is not negative. -/
def Decimal.text (d : Decimal) : String :=
  let digits := (toString d.digits).toList
  let lead : Int := digits.length - 1 + d.exponent
  let zeros (n : Int) : List Char := List.replicate n.toNat '0'
  if d.digits = 0 then "0.0"
  else if lead < -5 || 15 < lead then
    let point := match digits with
      | first :: second :: rest => first :: '.' :: second :: rest
      | digits => digits
    String.ofList point ++ "e" ++ (if lead < 0 then "-" else "+") ++ toString lead.natAbs
  else if lead < 0 then String.ofList ('0' :: '.' :: zeros (-lead - 1) ++ digits)
  else if 0 ≤ d.exponent then String.ofList (digits ++ zeros d.exponent ++ ['.', '0'])
  else
    let whole := (lead + 1).toNat
    String.ofList (digits.take whole ++ '.' :: digits.drop whole)

/-- The text of a binary64 number; what is not finite has none and is written `null`. -/
def Binary64.text (x : Binary64) : String :=
  if x.isFinite then (if x.negative then "-" else "") ++ x.shortest.text else "null"

/-- The text of a numeral. -/
def Numeral.text : Numeral → String
  | .integer n => toString n.val
  | .real x _ => x.text

/-! ## 2. Strings -/

namespace Json

/-- The hexadecimal digit of a number below sixteen. -/
def hexDigit (n : Nat) : Char :=
  if n < 10 then Char.ofNat (48 + n) else Char.ofNat (87 + n)

/-- A character inside a written string. -/
def escape : Char → List Char
  | '"' => ['\\', '"']
  | '\\' => ['\\', '\\']
  | '\x08' => ['\\', 'b']
  | '\x0c' => ['\\', 'f']
  | '\n' => ['\\', 'n']
  | '\r' => ['\\', 'r']
  | '\t' => ['\\', 't']
  | c =>
    if c.toNat < 0x20 then ['\\', 'u', '0', '0', hexDigit (c.toNat / 16), hexDigit (c.toNat % 16)]
    else [c]

/-- A string in quotes. -/
def quote (s : String) : String :=
  String.ofList ('"' :: (s.toList.flatMap escape ++ ['"']))

/-! ## 3. Containers and trees -/

/-- An array from the texts of its items. -/
def bracket (items : List String) : String := "[" ++ String.intercalate "," items ++ "]"

/-- An object from the texts of its members. -/
def brace (members : List (String × String)) : String :=
  "\x7b" ++ String.intercalate "," (members.map fun (name, text) => quote name ++ ":" ++ text)
    ++ "\x7d"

mutual

/-- The text of a tree. -/
def text : Json → String
  | null => "null"
  | bool b => if b then "true" else "false"
  | number n => n.text
  | string s => quote s
  | array items => bracket (itemTexts items)
  | object members => brace (memberTexts members)

/-- The texts of the items of an array. -/
def itemTexts : List Json → List String
  | [] => []
  | item :: rest => text item :: itemTexts rest

/-- The texts of the members of an object. -/
def memberTexts : List (String × Json) → List (String × String)
  | [] => []
  | (name, value) :: rest => (name, text value) :: memberTexts rest

end

end Json

end RecordFilter
