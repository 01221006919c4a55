/-
# Properties of code points by name

The look-up of a set of code points by the name of a property, or by the name of a property and
one of its values.  Names are compared loosely: case, blanks, hyphens and underscores do not count,
nor does a leading "is".
-/
import RecordFilter.Unicode.Age
import RecordFilter.Unicode.Derived
import RecordFilter.Unicode.Script
import RecordFilter.Unicode.TextBreak

namespace RecordFilter

namespace Unicode

/-! ## 1. Names -/

/-- A name as names are compared.  The name of one property is the prefix itself and one more
letter; it keeps the prefix, so that it is not taken for a category. -/
def looseName (name : String) : String :=
  let cs := name.toList
  let (isPrefixed, cs) := match cs with
    | i :: s :: rest => if i.toLower == 'i' && s.toLower == 's' then (true, rest) else (false, cs)
    | cs => (false, cs)
  let counts (c : Char) : Bool := c != ' ' && c != '_' && c != '-' && c.toNat < 0x80
  let kept := (cs.filter counts).map Char.toLower
  if isPrefixed && kept == ['c'] then "isc" else String.ofList kept

/-- The entry of a table in which one of the names is the given one, loosely. -/
def lookUp {α : Type} (table : List (List String × α)) (loose : String) : Option α :=
  (table.find? fun (names, _) => names.any fun name => looseName name == loose).map Prod.snd

/-- The code points of a general category, or of one of three groups that have no other name. -/
def category? (loose : String) : Option CodeSet :=
  match loose with
  | "any" => some .all
  | "assigned" => some assigned
  | "ascii" => some (.range 0 0x7F)
  | loose => (lookUp generalCategoryNames loose).map inCategories

/-- The code of the script with a name. -/
def scriptCode? (loose : String) : Option String :=
  (scriptNames.find? fun names => names.any fun name => looseName name == loose).bind List.head?

/-- The code points that a name of a property, category or script stands for.  Three short names
of properties are kept for the categories of the same name. -/
def named? (name : String) : Option CodeSet :=
  let loose := looseName name
  let property :=
    if ["cf", "sc", "lc"].contains loose then none
    else lookUp (listedProperties ++ derivedProperties) loose
  property <|> category? loose <|> (scriptCode? loose).map inScript

/-- The version whose age has a name: the number itself, or its digits after a V. -/
def ageVersion? (loose : String) : Option String :=
  ageVersions.find? fun version =>
    loose == version || loose == "v" ++ String.ofList (version.toList.filter (· != '.'))

/-! ## 2. Look-up -/

/-- The code points for which a property has a value. -/
def withValue? (property value : String) : Option CodeSet :=
  let value := looseName value
  match looseName property with
  | "gc" | "generalcategory" => category? value
  | "sc" | "script" => (scriptCode? value).map inScript
  | "scx" | "scriptextensions" => (scriptCode? value).map usedByScript
  | "age" => (ageVersion? value).map inAge
  | "gcb" | "graphemeclusterbreak" => lookUp graphemeBreaks value
  | "wb" | "wordbreak" => lookUp wordBreaks value
  | "sb" | "sentencebreak" => lookUp sentenceBreaks value
  | _ => none

end Unicode

end RecordFilter
