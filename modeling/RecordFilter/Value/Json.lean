/-
# Values as JSON

Three maps between values and JSON: `ofJson` reads a tree as a value, `toJson?` gives a value as a
tree, and `text` writes a value.  JSON has no timestamps, no NaN and no infinities, and a tree has
no integers beyond 64 bits; a timestamp becomes the integer of its milliseconds, what is not
finite becomes `null`, and a wide integer that does not fit makes `toJson?` fail, while `text`
writes its digits.
-/
import RecordFilter.Json.Writer
import RecordFilter.Value.Basic

namespace RecordFilter

namespace Value

/-! ## 1. From JSON -/

mutual

/-- The value that a JSON tree stands for. -/
def ofJson : Json → Value
  | .null => null
  | .bool b => bool b
  | .number n => number (.ofNumeral n)
  | .string s => string s
  | .array items => array (ofJsonItems items)
  | .object members => object (ofJsonMembers members)

/-- The values of the items of an array. -/
def ofJsonItems : List Json → List Value
  | [] => []
  | item :: rest => ofJson item :: ofJsonItems rest

/-- The values of the members of an object, under the same names. -/
def ofJsonMembers : List (String × Json) → List (String × Value)
  | [] => []
  | (name, item) :: rest => (name, ofJson item) :: ofJsonMembers rest

end

/-! ## 2. To JSON -/

/-- An integer as a JSON tree, when 64 bits can hold it. -/
def integerToJson? (n : Int) : Option Json :=
  (fun n => .number (.integer n)) <$> BoundedInt.ofInt? n

/-- A number as a JSON tree. -/
def numberToJson? : Number → Option Json
  | .signed n => integerToJson? n.val
  | .unsigned n => integerToJson? n.val
  | .wide n => integerToJson? n.val
  | .real x => if h : x.isFinite = true then some (.number (.real x h)) else some .null

mutual

/-- The JSON tree of a value; none when an integer inside does not fit. -/
def toJson? : Value → Option Json
  | null => some .null
  | bool b => some (.bool b)
  | number n => numberToJson? n
  | timestamp t => integerToJson? t.millis.val
  | string s => some (.string s)
  | array items => .array <$> itemsToJson? items
  | object entries => .object <$> entriesToJson? entries

/-- The trees of the items of an array. -/
def itemsToJson? : List Value → Option (List Json)
  | [] => some []
  | v :: rest => do
    let v ← toJson? v
    let rest ← itemsToJson? rest
    some (v :: rest)

/-- The trees of the entries of an object. -/
def entriesToJson? : List (String × Value) → Option (List (String × Json))
  | [] => some []
  | (name, v) :: rest => do
    let v ← toJson? v
    let rest ← entriesToJson? rest
    some ((name, v) :: rest)

end

/-! ## 3. To text -/

/-- The text of a number. -/
def numberText : Number → String
  | .signed n => toString n.val
  | .unsigned n => toString n.val
  | .wide n => toString n.val
  | .real x => x.text

mutual

/-- The compact JSON text of a value. -/
def text : Value → String
  | null => "null"
  | bool b => if b then "true" else "false"
  | number n => numberText n
  | timestamp t => toString t.millis.val
  | string s => Json.quote s
  | array items => Json.bracket (itemTexts items)
  | object entries => Json.brace (entryTexts entries)

/-- The texts of the items of an array. -/
def itemTexts : List Value → List String
  | [] => []
  | v :: rest => text v :: itemTexts rest

/-- The texts of the entries of an object. -/
def entryTexts : List (String × Value) → List (String × String)
  | [] => []
  | (name, v) :: rest => (name, text v) :: entryTexts rest

end

end Value

/-- The compact JSON text of a record. -/
def Record.text (r : Record) : String := (Value.object r.entries).text

end RecordFilter
