/-
# Operators and combinators by name

The fifteen operators that a filter can set on a field, each with its name, its category and the
orderings it accepts, and the three combinators that join whole expressions.  A name that starts
with a dollar sign is reserved for combinators.
-/
import RecordFilter.Value.Basic

namespace RecordFilter

/-! ## 1. Operators -/

/-- What can be asked of a field's value. -/
inductive Operator where
  | equals
  | notEquals
  | includes
  | startsWith
  | endsWith
  | caseInsensitive
  | matchesPattern
  | greaterThan
  | greaterThanOrEqual
  | lessThan
  | lessThanOrEqual
  | includesEvery
  | includesSome
  | includesNone
  | length
deriving DecidableEq

namespace Operator

/-- Every operator, in the order in which they are listed and checked. -/
def all : List Operator :=
  [equals, notEquals, includes, startsWith, endsWith, caseInsensitive, matchesPattern,
    greaterThan, greaterThanOrEqual, lessThan, lessThanOrEqual, includesEvery, includesSome,
    includesNone, length]

theorem mem_all (op : Operator) : op ∈ all := by cases op <;> decide

/-- The name of an operator in documents. -/
def name : Operator → String
  | equals => "equals"
  | notEquals => "notEquals"
  | includes => "includes"
  | startsWith => "startsWith"
  | endsWith => "endsWith"
  | caseInsensitive => "caseInsensitive"
  | matchesPattern => "matches"
  | greaterThan => "greaterThan"
  | greaterThanOrEqual => "greaterThanOrEqual"
  | lessThan => "lessThan"
  | lessThanOrEqual => "lessThanOrEqual"
  | includesEvery => "includesEvery"
  | includesSome => "includesSome"
  | includesNone => "includesNone"
  | length => "length"

/-- The operator of a name. -/
def ofName? (name : String) : Option Operator := all.find? (fun op => op.name == name)

@[simp] theorem ofName?_name (op : Operator) : ofName? op.name = some op := by
  cases op <;> decide

theorem ofName?_eq_some_iff {name : String} {op : Operator} :
    ofName? name = some op ↔ name = op.name := by
  constructor
  · intro h
    have hname := List.find?_some h
    exact (beq_iff_eq.mp hname).symm
  · rintro rfl
    exact ofName?_name op

/-- The category of values that an operator is about. -/
def category : Operator → Category
  | equals | notEquals => .generic
  | includes | startsWith | endsWith | caseInsensitive | matchesPattern => .string
  | greaterThan | greaterThanOrEqual | lessThan | lessThanOrEqual => .numerical
  | includesEvery | includesSome | includesNone | length => .array

/-- Does the operator have an effect on values of this category?  The generic ones have one on
every value. -/
def appliesTo (op : Operator) (category : Category) : Bool :=
  op.category == .generic || op.category == category

/-- Does an ordering operator accept this order of value and bound?  The others accept none. -/
def accepts : Operator → Ordering → Bool
  | greaterThan, o => o == .gt
  | greaterThanOrEqual, o => o != .lt
  | lessThan, o => o == .lt
  | lessThanOrEqual, o => o != .gt
  | _, _ => false

end Operator

/-! ## 2. Combinators -/

/-- How whole expressions are joined. -/
inductive Combinator where
  | not
  | and
  | or
deriving DecidableEq

namespace Combinator

/-- Every combinator, in the order in which they take effect. -/
def all : List Combinator := [not, and, or]

/-- The key of a combinator in documents. -/
def key : Combinator → String
  | not => "$NOT"
  | and => "$AND"
  | or => "$OR"

/-- The combinator of a key. -/
def ofKey? (key : String) : Option Combinator := all.find? (fun c => c.key == key)

@[simp] theorem ofKey?_key (c : Combinator) : ofKey? c.key = some c := by
  cases c <;> decide

theorem ofKey?_eq_some_iff {key : String} {c : Combinator} :
    ofKey? key = some c ↔ key = c.key := by
  constructor
  · intro h
    have hkey := List.find?_some h
    exact (beq_iff_eq.mp hkey).symm
  · rintro rfl
    exact ofKey?_key c

@[simp] theorem ofKey?_name (op : Operator) : ofKey? op.name = none := by
  cases op <;> decide

end Combinator

/-- Is a name kept for combinators? -/
def isReserved (name : String) : Bool := name.toList.head? == some '$'

theorem isReserved_key (c : Combinator) : isReserved c.key = true := by
  cases c <;> decide

/-- A name that is not reserved is no key of a combinator. -/
theorem Combinator.ofKey?_eq_none_of_free {name : String} (h : isReserved name = false) :
    Combinator.ofKey? name = none := by
  cases hkey : Combinator.ofKey? name with
  | none => rfl
  | some c =>
    rw [Combinator.ofKey?_eq_some_iff.mp hkey, isReserved_key] at h
    cases h

end RecordFilter
