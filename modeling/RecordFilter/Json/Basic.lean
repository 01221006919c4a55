/-
# JSON trees

A JSON tree keeps the order of the members of an object.  A numeral is kept as what it means: an
integer that 64 bits can hold, signed or unsigned, or else a finite binary64 number.  Reading from
text and writing to text are modules of their own.

The type lets an object name a member twice.  `Json.WellFormed` says that none does, at any depth.
-/
import RecordFilter.Entries
import RecordFilter.Number.Basic

namespace RecordFilter

/-- The meaning of a JSON numeral. -/
inductive Numeral where
  | integer (n : BoundedInt (-0x8000000000000000) 0xffffffffffffffff)
  | real (x : Binary64) (finite : x.isFinite = true)
deriving DecidableEq

/-- The number that a numeral stands for. -/
def Number.ofNumeral : Numeral → Number
  | .integer n => .ofInteger n
  | .real x _ => .real x

/-- A JSON tree. -/
inductive Json where
  | null
  | bool (b : Bool)
  | number (n : Numeral)
  | string (s : String)
  | array (items : List Json)
  | object (members : List (String × Json))

namespace Json

/-- The types of JSON trees. -/
inductive Kind where
  | null
  | boolean
  | number
  | string
  | array
  | object
deriving DecidableEq

/-- The word for a type in error messages. -/
def Kind.name : Kind → String
  | .null => "null"
  | .boolean => "boolean"
  | .number => "number"
  | .string => "string"
  | .array => "array"
  | .object => "object"

/-- The type of a tree. -/
def kind : Json → Kind
  | null => .null
  | bool _ => .boolean
  | number _ => .number
  | string _ => .string
  | array _ => .array
  | object _ => .object

mutual

/-- No object inside the tree names a member twice. -/
def WellFormed : Json → Prop
  | array items => itemsWellFormed items
  | object members => Entries.Distinct members ∧ membersWellFormed members
  | _ => True

/-- Every item is well formed. -/
def itemsWellFormed : List Json → Prop
  | [] => True
  | item :: rest => WellFormed item ∧ itemsWellFormed rest

/-- Every member is well formed. -/
def membersWellFormed : List (String × Json) → Prop
  | [] => True
  | (_, item) :: rest => WellFormed item ∧ membersWellFormed rest

end

theorem itemsWellFormed_iff : ∀ {items : List Json},
    itemsWellFormed items ↔ ∀ item ∈ items, item.WellFormed
  | [] => by simp [itemsWellFormed]
  | item :: rest => by rw [itemsWellFormed, itemsWellFormed_iff, List.forall_mem_cons]

theorem membersWellFormed_iff : ∀ {members : List (String × Json)},
    membersWellFormed members ↔ ∀ m ∈ members, m.2.WellFormed
  | [] => by simp [membersWellFormed]
  | (name, item) :: rest => by rw [membersWellFormed, membersWellFormed_iff, List.forall_mem_cons]

theorem wellFormed_array_iff {items : List Json} :
    (array items).WellFormed ↔ ∀ item ∈ items, item.WellFormed := by
  rw [WellFormed, itemsWellFormed_iff]

theorem wellFormed_object_iff {members : List (String × Json)} :
    (object members).WellFormed ↔ Entries.Distinct members ∧ ∀ m ∈ members, m.2.WellFormed := by
  rw [WellFormed, membersWellFormed_iff]

theorem wellFormed_object_map_iff {α : Type} {key : α → String} {json : α → Json} {xs : List α} :
    (object (xs.map fun x => (key x, json x))).WellFormed ↔
      (xs.map key).Nodup ∧ ∀ x ∈ xs, (json x).WellFormed := by
  rw [wellFormed_object_iff, List.forall_mem_map, Entries.Distinct, Entries.names, List.map_map]
  rfl

end Json

end RecordFilter
