/-
# Validation

An expression is valid under a depth limit when no expression or operator set inside lies deeper
than the limit and no field name is reserved.  The expression itself has depth 0; an operator set
under a field, the set of a length, and each expression of an operand are one step deeper than
what holds them.  The first violation is reported: a depth before what lies at it, a field's name
before its operators, a length before the combinators, and these in the order not, and, or.
-/
import RecordFilter.Error
import RecordFilter.Expression.Basic
import RecordFilter.Limits

namespace RecordFilter

/-- Refuses a depth beyond the limit. -/
def checkDepth (limit depth : Nat) : Except Error Unit :=
  if limit < depth then .error (.depthExceeded limit) else .ok ()

mutual

/-- Validates an expression at a depth. -/
def Expression.validateAt (limit : Nat) : Expression → Nat → Except Error Unit
  | ⟨clauses, combinators⟩, depth => do
    checkDepth limit depth
    Expression.validateClauses limit clauses (depth + 1)
    Combinators.validateAt limit combinators (depth + 1)

/-- Validates clauses in order; `depth` is that of their operator sets. -/
def Expression.validateClauses (limit : Nat) : List (String × Clause) → Nat → Except Error Unit
  | [], _ => .ok ()
  | (name, clause) :: rest, depth => do
    if isReserved name then .error (.reservedFieldName name)
    Clause.validateAt limit clause depth
    Expression.validateClauses limit rest depth

/-- Validates a clause: only operator sets can be at fault. -/
def Clause.validateAt (limit : Nat) : Clause → Nat → Except Error Unit
  | .operators ops, depth => OperatorSet.validateAt limit ops depth
  | .literal _, _ => .ok ()
  | .predicate _, _ => .ok ()

/-- Validates an operator set at a depth. -/
def OperatorSet.validateAt (limit : Nat) : OperatorSet → Nat → Except Error Unit
  | ⟨_, length, combinators⟩, depth => do
    checkDepth limit depth
    OperatorSet.validateLength limit length (depth + 1)
    Combinators.validateAt limit combinators (depth + 1)

/-- Validates the operator set of a length, if there is one. -/
def OperatorSet.validateLength (limit : Nat) : Option OperatorSet → Nat → Except Error Unit
  | none, _ => .ok ()
  | some ops, depth => OperatorSet.validateAt limit ops depth

/-- Validates the operands of combinators at a depth. -/
def Combinators.validateAt (limit : Nat) : Combinators → Nat → Except Error Unit
  | ⟨not, and, or⟩, depth => do
    Combinators.validateOperand limit not depth
    Combinators.validateOperand limit and depth
    Combinators.validateOperand limit or depth

/-- Validates an operand, if there is one. -/
def Combinators.validateOperand (limit : Nat) : Option Operand → Nat → Except Error Unit
  | none, _ => .ok ()
  | some operand, depth => Operand.validateAt limit operand depth

/-- Validates the expressions of an operand at a depth. -/
def Operand.validateAt (limit : Nat) : Operand → Nat → Except Error Unit
  | .single e, depth => Expression.validateAt limit e depth
  | .many es, depth => Operand.validateAll limit es depth

/-- Validates expressions in order. -/
def Operand.validateAll (limit : Nat) : List Expression → Nat → Except Error Unit
  | [], _ => .ok ()
  | e :: rest, depth => do
    Expression.validateAt limit e depth
    Operand.validateAll limit rest depth

end

/-- Validates an expression: the first violation, if there is one. -/
def Expression.check (e : Expression) (limits : Limits) : Except Error Unit :=
  e.validateAt limits.maxDepth 0

end RecordFilter
