/-
# What nests in an expression

An expression and an operator set are nodes.  A node holds others directly: an expression the
operator sets of its clauses, an operator set the set of its length, and both the expressions that
their combinators join (`Node.Holds`).  One such step after the other leads to all that nests in a
node, and the number of steps is the depth (`Node.Nests`).

Nothing nests in itself, so what a node has when all that it holds has it, every node has
(`Node.induction`).
-/
import RecordFilter.Proofs.Induction

namespace RecordFilter

/-- An expression or an operator set. -/
inductive Node where
  | expression (e : Expression)
  | operators (ops : OperatorSet)

namespace Node

/-- The clauses of a node; only expressions have any. -/
def clauses : Node → List (String × Clause)
  | .expression e => e.clauses
  | .operators _ => []

/-- The combinators of a node. -/
def combinators : Node → Combinators
  | .expression e => e.combinators
  | .operators ops => ops.combinators

/-- What a node holds directly. -/
inductive Holds : Node → Node → Prop
  | clause {e : Expression} {name : String} {ops : OperatorSet}
      (h : (name, Clause.operators ops) ∈ e.clauses) : Holds (.expression e) (.operators ops)
  | length {ops inner : OperatorSet} (h : ops.length = some inner) :
      Holds (.operators ops) (.operators inner)
  | operand {x : Node} {e : Expression} (h : e ∈ x.combinators.expressions) :
      Holds x (.expression e)

/-- What nests in a node, the node itself included, with its depth below the node. -/
inductive Nests : Node → Node → Nat → Prop
  | self (x : Node) : Nests x x 0
  | step {x held y : Node} {depth : Nat} (holds : x.Holds held) (h : Nests held y depth) :
      Nests x y (depth + 1)

/-- **Induction over nodes**: from all that a node holds to the node. -/
theorem induction {P : Node → Prop} (step : ∀ x, (∀ y, x.Holds y → P y) → P x) (x : Node) :
    P x := by
  have hall : (∀ e, P (.expression e)) ∧ ∀ ops, P (.operators ops) := by
    refine Expression.induction ?_ ?_
    · intro clauses combinators hops hes
      refine step _ fun y hy => ?_
      cases hy with
      | clause h => exact hops _ _ h
      | operand h => exact hes _ h
    · intro conditions length combinators hlength hes
      refine step _ fun y hy => ?_
      cases hy with
      | length h => exact hlength _ h
      | operand h => exact hes _ h
  cases x with
  | expression e => exact hall.1 e
  | operators ops => exact hall.2 ops

end Node

end RecordFilter
