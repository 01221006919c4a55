/-
# Conditions on a value

When the conditions of an operator set hold on a value.  The two equalities look at every value.
The string operators look at strings, the orderings at numbers and timestamps, the membership
operators at arrays; on a value of another category an operator asks nothing.  With case ignored,
the string and the string operands of all but the pattern are taken in lower case.
-/
import RecordFilter.Expression.Basic
import RecordFilter.Text.Lowercase
import RecordFilter.Text.Search
import RecordFilter.Value.Equality

namespace RecordFilter

namespace Conditions

/-- Does a setting hold, if it is there? -/
def ifSet {α : Type} (setting : Option α) (holds : α → Bool) : Bool :=
  match setting with
  | none => true
  | some a => holds a

@[simp] theorem ifSet_none {α : Type} (holds : α → Bool) : ifSet none holds = true := rfl

@[simp] theorem ifSet_some {α : Type} (a : α) (holds : α → Bool) :
    ifSet (some a) holds = holds a := rfl

/-- A text as the string operators compare it. -/
def fold (c : Conditions) (s : String) : String :=
  if c.caseInsensitive then Text.lowercase s else s

/-- Is an operand a string that equals a folded text when folded itself? -/
def equalsFolded (c : Conditions) (folded : String) : Value → Bool
  | .string s => folded == c.fold s
  | _ => false

/-- Is a value, if present, strictly equal to an operand? -/
def presentEqual (value : Option Value) (operand : Value) : Bool :=
  match value with
  | some v => v.strictEq operand
  | none => false

/-- The equalities on a value that is not a string, present or absent. -/
def equalitiesHold (c : Conditions) (value : Option Value) : Bool :=
  ifSet c.equals (presentEqual value) && ifSet c.notEquals fun v => !presentEqual value v

/-- All that is asked of a string. -/
def stringHolds (c : Conditions) (s : String) : Bool :=
  let folded := c.fold s
  ifSet c.equals (c.equalsFolded folded)
    && ifSet c.notEquals (fun v => !c.equalsFolded folded v)
    && ifSet c.includes (fun part => Text.includes (c.fold part) folded)
    && ifSet c.startsWith (fun part => Text.isStart (c.fold part) folded)
    && ifSet c.endsWith (fun part => Text.isEnd (c.fold part) folded)
    && ifSet c.matchesPattern (fun p => p.isMatch folded)

/-- Is a numeric in an order with a bound that an ordering operator accepts?  Without an order it
is not. -/
def ordered (op : Operator) (n bound : Numeric) : Bool :=
  match n.compare? bound with
  | some o => op.accepts o
  | none => false

/-- The orderings on a number or timestamp. -/
def orderingsHold (c : Conditions) (n : Numeric) : Bool :=
  ifSet c.greaterThan (ordered .greaterThan n)
    && ifSet c.greaterThanOrEqual (ordered .greaterThanOrEqual n)
    && ifSet c.lessThan (ordered .lessThan n)
    && ifSet c.lessThanOrEqual (ordered .lessThanOrEqual n)

/-- Is an item of an array strictly equal to a value? -/
def hasItem (items : List Value) (v : Value) : Bool := items.any fun item => item.strictEq v

/-- The membership operators on an array. -/
def membershipsHold (c : Conditions) (items : List Value) : Bool :=
  ifSet c.includesEvery (fun vs => vs.all (hasItem items))
    && ifSet c.includesSome (fun vs => vs.any (hasItem items))
    && ifSet c.includesNone (fun vs => !vs.any (hasItem items))

/-- Do all conditions that apply to a value hold on it? -/
def hold (c : Conditions) (value : Option Value) : Bool :=
  match value with
  | some (.string s) => c.stringHolds s
  | some (.number n) => c.equalitiesHold value && c.orderingsHold (.number n)
  | some (.timestamp t) => c.equalitiesHold value && c.orderingsHold (.timestamp t)
  | some (.array items) => c.equalitiesHold value && c.membershipsHold items
  | _ => c.equalitiesHold value

end Conditions

end RecordFilter
