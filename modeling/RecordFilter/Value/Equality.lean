/-
# Strict equality of values

Two values are strictly equal when they have the same type and the same content: numbers by
`Number.strictEq`, arrays item by item, objects when they have as many entries and every entry of
the one has a strictly equal entry of the same name in the other.  So the order of the entries
does not matter, a timestamp never equals a number, and a NaN equals nothing.
-/
import RecordFilter.Value.Basic

namespace RecordFilter

namespace Value

mutual

/-- Strict equality. -/
def strictEq : Value → Value → Bool
  | null, null => true
  | bool a, bool b => a == b
  | number a, number b => a.strictEq b
  | timestamp a, timestamp b => a == b
  | string a, string b => a == b
  | array a, array b => itemsEq a b
  | object a, object b => a.length == b.length && entriesWithin a b
  | _, _ => false

/-- Strict equality item by item. -/
def itemsEq : List Value → List Value → Bool
  | [], [] => true
  | v :: vs, w :: ws => strictEq v w && itemsEq vs ws
  | _, _ => false

/-- Every entry of the first table has a strictly equal one in the second. -/
def entriesWithin : List (String × Value) → List (String × Value) → Bool
  | [], _ => true
  | (name, v) :: rest, other =>
    (match Entries.get? other name with
      | some w => strictEq v w
      | none => false) && entriesWithin rest other

end

end Value

/-- Strict equality of records: as objects. -/
def Record.strictEq (a b : Record) : Bool := (Value.object a.entries).strictEq (.object b.entries)

end RecordFilter
