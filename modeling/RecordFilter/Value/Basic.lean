/-
# Values and records

A value is what a field of a record holds; a record is a table of named values.  Records nest in
values as tables of entries, so one recursion covers both.  The category of a value decides which
operators apply to it; a field that is absent has the generic category.

The type lets a table name a field twice.  `Value.WellFormed` and `Record.WellFormed` say that
none does, at any depth; every way of making a record keeps that.
-/
import RecordFilter.Entries
import RecordFilter.Numeric

namespace RecordFilter

/-! ## 1. Categories -/

/-- The kinds of value that operators tell apart. -/
inductive Category where
  | string
  | numerical
  | array
  | generic
deriving DecidableEq

/-- The name of a category. -/
def Category.name : Category → String
  | .string => "string"
  | .numerical => "numerical"
  | .array => "array"
  | .generic => "generic"

/-! ## 2. Values -/

/-- What a field holds. -/
inductive Value where
  | null
  | bool (b : Bool)
  | number (n : Number)
  | timestamp (t : Timestamp)
  | string (s : String)
  | array (items : List Value)
  | object (entries : List (String × Value))

namespace Value

/-- The category that decides which operators apply. -/
def category : Value → Category
  | string _ => .string
  | number _ | timestamp _ => .numerical
  | array _ => .array
  | null | bool _ | object _ => .generic

/-- The name of a value's type. -/
def typeName : Value → String
  | null => "null"
  | bool _ => "boolean"
  | number _ => "number"
  | timestamp _ => "timestamp"
  | string _ => "string"
  | array _ => "array"
  | object _ => "object"

/-- The truth value that a value holds. -/
def bool? : Value → Option Bool
  | bool b => some b
  | _ => none

/-- The number that a value holds. -/
def number? : Value → Option Number
  | number n => some n
  | _ => none

/-- The timestamp that a value holds. -/
def timestamp? : Value → Option Timestamp
  | timestamp t => some t
  | _ => none

/-- The string that a value holds. -/
def string? : Value → Option String
  | string s => some s
  | _ => none

/-- The items of an array. -/
def array? : Value → Option (List Value)
  | array items => some items
  | _ => none

/-- The entries of an object. -/
def object? : Value → Option (Entries Value)
  | object entries => some entries
  | _ => none

/-- The number or timestamp that a value holds. -/
def numeric? : Value → Option Numeric
  | number n => some (.number n)
  | timestamp t => some (.timestamp t)
  | _ => none

/-- A numeric as a value. -/
def ofNumeric : Numeric → Value
  | .number n => .number n
  | .timestamp t => .timestamp t

@[simp] theorem numeric?_ofNumeric (n : Numeric) : (ofNumeric n).numeric? = some n := by
  cases n <;> rfl

mutual

/-- No object inside the value names an entry twice. -/
def WellFormed : Value → Prop
  | array items => itemsWellFormed items
  | object entries => Entries.Distinct entries ∧ entriesWellFormed entries
  | _ => True

/-- Every item is well formed. -/
def itemsWellFormed : List Value → Prop
  | [] => True
  | v :: rest => WellFormed v ∧ itemsWellFormed rest

/-- Every entry is well formed. -/
def entriesWellFormed : List (String × Value) → Prop
  | [] => True
  | (_, v) :: rest => WellFormed v ∧ entriesWellFormed rest

end

theorem itemsWellFormed_iff : ∀ {items : List Value},
    itemsWellFormed items ↔ ∀ v ∈ items, v.WellFormed
  | [] => by simp [itemsWellFormed]
  | v :: rest => by rw [itemsWellFormed, itemsWellFormed_iff, List.forall_mem_cons]

theorem entriesWellFormed_iff : ∀ {entries : List (String × Value)},
    entriesWellFormed entries ↔ ∀ e ∈ entries, e.2.WellFormed
  | [] => by simp [entriesWellFormed]
  | (name, v) :: rest => by rw [entriesWellFormed, entriesWellFormed_iff, List.forall_mem_cons]

end Value

/-- The category of a field's value, present or not. -/
def Category.of : Option Value → Category
  | some v => v.category
  | none => .generic

/-! ## 3. Records -/

/-- A table of named values, in insertion order. -/
structure Record where
  entries : Entries Value

namespace Record

/-- The record without fields. -/
def empty : Record := ⟨[]⟩

/-- The value of a field. -/
def get? (r : Record) (field : String) : Option Value := Entries.get? r.entries field

/-- Is the field there? -/
def contains (r : Record) (field : String) : Bool := Entries.contains r.entries field

/-- How many fields there are. -/
def size (r : Record) : Nat := r.entries.length

/-- Sets a field, in place when it is there. -/
def insert (r : Record) (field : String) (v : Value) : Record := ⟨Entries.put r.entries field v⟩

/-- Sets a field, and tells the value that it had. -/
def replace (r : Record) (field : String) (v : Value) : Option Value × Record :=
  (r.get? field, r.insert field v)

/-- The record of a list of fields, each put after the other. -/
def ofList (fields : List (String × Value)) : Record := ⟨Entries.ofList fields⟩

/-- No field is named twice, nor any entry of an object inside. -/
def WellFormed (r : Record) : Prop := (Value.object r.entries).WellFormed

@[simp] theorem get?_insert (r : Record) (field : String) (v : Value) (other : String) :
    (r.insert field v).get? other = if field = other then some v else r.get? other :=
  Entries.get?_put ..

end Record

end RecordFilter
