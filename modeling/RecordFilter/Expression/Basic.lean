/-
# Expressions

An expression is a table of clauses, one for each field it asks about, with up to three
combinators over further expressions.  A clause is a literal, a custom predicate or a set of
operators; an operator set has combinators of its own, over expressions on the whole record, and
may hold a further operator set for the length of an array.

Every part that is not itself an expression or an operator set is kept apart in `Conditions`, so
the recursion of the types is over clauses, lengths and operands alone.
-/
import RecordFilter.Operator
import RecordFilter.Pattern.Basic
import RecordFilter.Predicate

namespace RecordFilter

/-! ## 1. The types -/

/-- The operators of a set that hold no operator set, each set or not. -/
structure Conditions where
  equals : Option Value := none
  notEquals : Option Value := none
  includes : Option String := none
  startsWith : Option String := none
  endsWith : Option String := none
  caseInsensitive : Bool := false
  matchesPattern : Option Pattern := none
  greaterThan : Option Numeric := none
  greaterThanOrEqual : Option Numeric := none
  lessThan : Option Numeric := none
  lessThanOrEqual : Option Numeric := none
  includesEvery : Option (List Value) := none
  includesSome : Option (List Value) := none
  includesNone : Option (List Value) := none

mutual

/-- A filter over records: clauses by field name, and combinators. -/
structure Expression where
  clauses : List (String × Clause)
  combinators : Combinators

/-- What is asked of one field: a value it must equal, a predicate, or operators. -/
inductive Clause where
  | literal (v : Value)
  | predicate (p : Predicate)
  | operators (ops : OperatorSet)

/-- Operators on one field, with one more set for the length of an array. -/
structure OperatorSet where
  conditions : Conditions
  length : Option OperatorSet
  combinators : Combinators

/-- What a combinator joins: one expression, or a list of them. -/
inductive Operand where
  | single (e : Expression)
  | many (es : List Expression)

/-- The operand of each combinator, set or not. -/
structure Combinators where
  not : Option Operand
  and : Option Operand
  or : Option Operand

end

/-! ## 2. Combinators -/

/-- The expressions that an operand joins. -/
def Operand.expressions : Operand → List Expression
  | .single e => [e]
  | .many es => es

namespace Combinators

/-- No combinator is set. -/
def empty : Combinators := ⟨none, none, none⟩

/-- The operand of a combinator. -/
def get? (cs : Combinators) : Combinator → Option Operand
  | .not => cs.not
  | .and => cs.and
  | .or => cs.or

/-- Sets the operand of a combinator. -/
def set (cs : Combinators) (c : Combinator) (operand : Operand) : Combinators :=
  match c with
  | .not => { cs with not := some operand }
  | .and => { cs with and := some operand }
  | .or => { cs with or := some operand }

theorem get?_set (cs : Combinators) (c : Combinator) (operand : Operand) (other : Combinator) :
    (cs.set c operand).get? other = if c = other then some operand else cs.get? other := by
  cases c <;> cases other <;> rfl

/-- How many combinators are set. -/
def size (cs : Combinators) : Nat :=
  (Combinator.all.filter fun c => (cs.get? c).isSome).length

/-- Is no combinator set? -/
def isEmpty (cs : Combinators) : Bool := cs.not.isNone && cs.and.isNone && cs.or.isNone

theorem isEmpty_iff_size (cs : Combinators) : cs.isEmpty = true ↔ cs.size = 0 := by
  obtain ⟨n, a, o⟩ := cs
  cases n <;> cases a <;> cases o <;> simp [isEmpty, size, Combinator.all, get?]

end Combinators

/-! ## 3. Operator sets -/

/-- The conditions that are set, in the order of `Operator.all`. -/
def Conditions.configured (c : Conditions) : List Operator :=
  [(Operator.equals, c.equals.isSome), (.notEquals, c.notEquals.isSome),
    (.includes, c.includes.isSome), (.startsWith, c.startsWith.isSome),
    (.endsWith, c.endsWith.isSome), (.caseInsensitive, c.caseInsensitive),
    (.matchesPattern, c.matchesPattern.isSome), (.greaterThan, c.greaterThan.isSome),
    (.greaterThanOrEqual, c.greaterThanOrEqual.isSome), (.lessThan, c.lessThan.isSome),
    (.lessThanOrEqual, c.lessThanOrEqual.isSome), (.includesEvery, c.includesEvery.isSome),
    (.includesSome, c.includesSome.isSome), (.includesNone, c.includesNone.isSome)].filterMap
    fun (op, isSet) => if isSet then some op else none

/-- One operator or combinator of a set, with what it takes. -/
inductive Setting where
  | equals (v : Value)
  | notEquals (v : Value)
  | includes (part : String)
  | startsWith (part : String)
  | endsWith (part : String)
  | caseInsensitive (on : Bool)
  | matchesPattern (p : Pattern)
  | greaterThan (bound : Numeric)
  | greaterThanOrEqual (bound : Numeric)
  | lessThan (bound : Numeric)
  | lessThanOrEqual (bound : Numeric)
  | includesEvery (vs : List Value)
  | includesSome (vs : List Value)
  | includesNone (vs : List Value)
  | length (ops : OperatorSet)
  | combine (c : Combinator) (operand : Operand)

namespace OperatorSet

/-- The set without operators, which every value passes. -/
def empty : OperatorSet := ⟨{}, none, .empty⟩

/-- Sets one operator or combinator, whatever it was before. -/
def set (ops : OperatorSet) : Setting → OperatorSet
  | .equals v => { ops with conditions.equals := some v }
  | .notEquals v => { ops with conditions.notEquals := some v }
  | .includes part => { ops with conditions.includes := some part }
  | .startsWith part => { ops with conditions.startsWith := some part }
  | .endsWith part => { ops with conditions.endsWith := some part }
  | .caseInsensitive on => { ops with conditions.caseInsensitive := on }
  | .matchesPattern p => { ops with conditions.matchesPattern := some p }
  | .greaterThan bound => { ops with conditions.greaterThan := some bound }
  | .greaterThanOrEqual bound => { ops with conditions.greaterThanOrEqual := some bound }
  | .lessThan bound => { ops with conditions.lessThan := some bound }
  | .lessThanOrEqual bound => { ops with conditions.lessThanOrEqual := some bound }
  | .includesEvery vs => { ops with conditions.includesEvery := some vs }
  | .includesSome vs => { ops with conditions.includesSome := some vs }
  | .includesNone vs => { ops with conditions.includesNone := some vs }
  | .length inner => { ops with length := some inner }
  | .combine c operand => { ops with combinators := ops.combinators.set c operand }

/-- The set that a list of settings makes, one after the other. -/
def ofSettings (settings : List Setting) : OperatorSet := settings.foldl set empty

/-- The operators that are set, in the order of `Operator.all`. -/
def configured (ops : OperatorSet) : List Operator :=
  ops.conditions.configured ++ if ops.length.isSome then [.length] else []

/-- Is nothing set? -/
def isEmpty (ops : OperatorSet) : Bool := ops.configured.isEmpty && ops.combinators.isEmpty

end OperatorSet

/-! ## 4. Expressions -/

namespace Expression

/-- The expression that every record matches. -/
def empty : Expression := ⟨[], .empty⟩

/-- Sets the clause of a field, in the place of the one it had. -/
def field (e : Expression) (name : String) (clause : Clause) : Expression :=
  { e with clauses := Entries.put e.clauses name clause }

/-- Sets the operand of a combinator. -/
def combine (e : Expression) (c : Combinator) (operand : Operand) : Expression :=
  { e with combinators := e.combinators.set c operand }

/-- Is nothing asked? -/
def isEmpty (e : Expression) : Bool := e.clauses.isEmpty && e.combinators.isEmpty

end Expression

end RecordFilter
