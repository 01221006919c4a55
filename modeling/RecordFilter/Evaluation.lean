/-
# Evaluation

The verdict of an expression on one record of a dataset.  An evaluation is a value: the events on
the way and the outcome, which is a verdict or the failure of a predicate.  Evaluations are joined
from left to right, and what can no longer change the verdict is not evaluated, so its predicates
are not called.  That order is part of the meaning: a failure that is not reached is no failure.

The clauses of an expression are joined first, in order, and then its combinators: the negation of
`$NOT`, then `$AND`, then `$OR`.  A list under `$OR` is joined like the others; a single expression
under `$OR` is an alternative to the other combinators.  An operator set is evaluated in the same
way, its conditions and its length taking the place of the clauses.
-/
import RecordFilter.Expression.Conditions
import RecordFilter.Journal

namespace RecordFilter

/-! ## 1. Evaluations -/

/-- The events of an evaluation and its outcome. -/
structure Evaluation where
  events : Journal
  outcome : Except PredicateFailure Bool

namespace Evaluation

/-- A verdict that takes no event. -/
def verdict (b : Bool) : Evaluation := ⟨[], .ok b⟩

/-- An evaluation with events before it. -/
def after (e : Evaluation) (events : Journal) : Evaluation := ⟨events ++ e.events, e.outcome⟩

/-- Goes on after a match; a miss or a failure stands. -/
def andThen (first : Evaluation) (next : Unit → Evaluation) : Evaluation :=
  match first.outcome with
  | .ok true => (next ()).after first.events
  | _ => first

/-- Goes on after a miss; a match or a failure stands. -/
def orElse (first : Evaluation) (next : Unit → Evaluation) : Evaluation :=
  match first.outcome with
  | .ok false => (next ()).after first.events
  | _ => first

/-- The opposite verdict. -/
def negate (e : Evaluation) : Evaluation := ⟨e.events, e.outcome.map (!·)⟩

@[simp] theorem after_nil (e : Evaluation) : e.after [] = e := rfl

@[simp] theorem match_andThen (events : Journal) (next : Unit → Evaluation) :
    (Evaluation.mk events (.ok true)).andThen next = (next ()).after events := rfl

@[simp] theorem miss_andThen (events : Journal) (next : Unit → Evaluation) :
    (Evaluation.mk events (.ok false)).andThen next = ⟨events, .ok false⟩ := rfl

@[simp] theorem failure_andThen (events : Journal) (f : PredicateFailure)
    (next : Unit → Evaluation) :
    (Evaluation.mk events (.error f)).andThen next = ⟨events, .error f⟩ := rfl

@[simp] theorem match_orElse (events : Journal) (next : Unit → Evaluation) :
    (Evaluation.mk events (.ok true)).orElse next = ⟨events, .ok true⟩ := rfl

@[simp] theorem miss_orElse (events : Journal) (next : Unit → Evaluation) :
    (Evaluation.mk events (.ok false)).orElse next = (next ()).after events := rfl

@[simp] theorem failure_orElse (events : Journal) (f : PredicateFailure)
    (next : Unit → Evaluation) :
    (Evaluation.mk events (.error f)).orElse next = ⟨events, .error f⟩ := rfl

/-- The calls of predicates on the way. -/
def calls (e : Evaluation) : List FieldContext := Journal.calls e.events

end Evaluation

/-! ## 2. Where an evaluation takes place -/

/-- A record with its place in a dataset. -/
structure Scope where
  dataset : List Record
  index : Nat
  record : Record

/-- The scope of an index, when the dataset has a record there. -/
def Scope.at? (dataset : List Record) (index : Nat) : Option Scope :=
  (dataset[index]?).map fun record => ⟨dataset, index, record⟩

/-- What a predicate on a field sees. -/
def Scope.context (scope : Scope) (field : String) (value : Option Value) : FieldContext :=
  { field, value, record := scope.record, index := scope.index, dataset := scope.dataset }

/-- The call of a predicate, and its failure if it fails. -/
def Predicate.evaluate (p : Predicate) (context : FieldContext) : Evaluation :=
  match p.call context with
  | .ok b => ⟨[.called context], .ok b⟩
  | .error reason =>
    let failure : PredicateFailure := ⟨context.field, reason⟩
    ⟨[.called context, .predicateFailed failure context.index], .error failure⟩

/-- The operators that do not apply to a category, on record when there are any. -/
def OperatorSet.ignoredEvents (configured : List Operator) (category : Category) : Journal :=
  match configured.filter fun op => !op.appliesTo category with
  | [] => []
  | ignored => [.ignored ignored category]

/-! ## 3. Expressions -/

mutual

/-- The evaluation of an expression in a scope. -/
def Expression.evaluate : Expression → Scope → Evaluation
  | ⟨clauses, combinators⟩, scope =>
    (Expression.evaluateClauses clauses scope).andThen fun _ => combinators.evaluate scope

/-- The clauses, in order, as long as they match. -/
def Expression.evaluateClauses : List (String × Clause) → Scope → Evaluation
  | [], _ => .verdict true
  | (name, clause) :: rest, scope =>
    (clause.evaluate name scope).andThen fun _ => Expression.evaluateClauses rest scope

/-- A clause on the field of its name. -/
def Clause.evaluate : Clause → String → Scope → Evaluation
  | .literal v, name, scope => .verdict (Conditions.presentEqual (scope.record.get? name) v)
  | .predicate p, name, scope => p.evaluate (scope.context name (scope.record.get? name))
  | .operators ops, name, scope => ops.evaluate (scope.record.get? name) scope

/-- An operator set on a value: its conditions, its length, its combinators. -/
def OperatorSet.evaluate : OperatorSet → Option Value → Scope → Evaluation
  | ⟨conditions, length, combinators⟩, value, scope =>
    ((Evaluation.verdict (conditions.hold value)).andThen fun _ =>
      (OperatorSet.evaluateLength length value scope).andThen fun _ =>
        combinators.evaluate scope).after
      (OperatorSet.ignoredEvents
        (OperatorSet.configured ⟨conditions, length, combinators⟩) (Category.of value))

/-- The operator set of a length, on the number of items of an array. -/
def OperatorSet.evaluateLength : Option OperatorSet → Option Value → Scope → Evaluation
  | some ops, some (.array items), scope =>
    ops.evaluate (some (.number (.unsigned (.ofNat items.length)))) scope
  | _, _, _ => .verdict true

/-- The combinators that are set, in their order. -/
def Combinators.evaluate : Combinators → Scope → Evaluation
  | ⟨not, and, or⟩, scope =>
    Combinators.evaluateOr or
      ((Combinators.evaluateNot not scope).andThen fun _ => Combinators.evaluateAnd and scope) scope

/-- A miss where all expressions of the operand match. -/
def Combinators.evaluateNot : Option Operand → Scope → Evaluation
  | none, _ => .verdict true
  | some operand, scope => (operand.evaluateAll scope).negate

/-- A match where all expressions of the operand match. -/
def Combinators.evaluateAnd : Option Operand → Scope → Evaluation
  | none, _ => .verdict true
  | some operand, scope => operand.evaluateAll scope

/-- A single expression is an alternative to what came before; a list must have a match besides. -/
def Combinators.evaluateOr : Option Operand → Evaluation → Scope → Evaluation
  | none, before, _ => before
  | some (.single e), before, scope => before.orElse fun _ => e.evaluate scope
  | some (.many es), before, scope => before.andThen fun _ => Operand.evaluateAny es scope

/-- Do all expressions of an operand match?  The first miss decides. -/
def Operand.evaluateAll : Operand → Scope → Evaluation
  | .single e, scope => e.evaluate scope
  | .many es, scope => Operand.evaluateEvery es scope

/-- Do all expressions of a list match? -/
def Operand.evaluateEvery : List Expression → Scope → Evaluation
  | [], _ => .verdict true
  | e :: rest, scope => (e.evaluate scope).andThen fun _ => Operand.evaluateEvery rest scope

/-- Does one expression of a list match?  The first match decides. -/
def Operand.evaluateAny : List Expression → Scope → Evaluation
  | [], _ => .verdict false
  | e :: rest, scope => (e.evaluate scope).orElse fun _ => Operand.evaluateAny rest scope

end

end RecordFilter
