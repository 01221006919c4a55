/-
# Where predicates occur

The custom predicates of an expression, each with the field that its clause is on, listed in one
fixed order: clauses as they stand; in an operator set the length before the combinators; of the
combinators `$NOT`, then `$AND`, then `$OR`; the members of an operand as they stand.  The list is
read off the expression alone, whatever the record.

What a predicate sees in a scope follows from its field: `Scope.contextOf`.
-/
import RecordFilter.Proofs.Joins

namespace RecordFilter

/-! ## 1. The list of occurrences -/

mutual

/-- The predicates of an expression, each with the field of its clause. -/
def Expression.predicates : Expression → List (String × Predicate)
  | ⟨clauses, combinators⟩ => Expression.clausePredicates clauses ++ combinators.predicates

/-- The predicates of clauses. -/
def Expression.clausePredicates : List (String × Clause) → List (String × Predicate)
  | [] => []
  | (name, clause) :: rest => clause.predicates name ++ Expression.clausePredicates rest

/-- The predicates of a clause on a field; those inside an operator set have fields of their own. -/
def Clause.predicates : Clause → String → List (String × Predicate)
  | .literal _, _ => []
  | .predicate p, name => [(name, p)]
  | .operators ops, _ => ops.predicates

/-- The predicates of an operator set. -/
def OperatorSet.predicates : OperatorSet → List (String × Predicate)
  | ⟨_, length, combinators⟩ => OperatorSet.lengthPredicates length ++ combinators.predicates

/-- The predicates of the set of a length. -/
def OperatorSet.lengthPredicates : Option OperatorSet → List (String × Predicate)
  | none => []
  | some ops => ops.predicates

/-- The predicates of combinators. -/
def Combinators.predicates : Combinators → List (String × Predicate)
  | ⟨not, and, or⟩ =>
    Combinators.slotPredicates not ++ Combinators.slotPredicates and
      ++ Combinators.slotPredicates or

/-- The predicates under one combinator. -/
def Combinators.slotPredicates : Option Operand → List (String × Predicate)
  | none => []
  | some operand => operand.predicates

/-- The predicates of an operand. -/
def Operand.predicates : Operand → List (String × Predicate)
  | .single e => e.predicates
  | .many es => Operand.listPredicates es

/-- The predicates of a list of expressions. -/
def Operand.listPredicates : List Expression → List (String × Predicate)
  | [] => []
  | e :: rest => e.predicates ++ Operand.listPredicates rest

end

/-! ## 2. The list through its parts -/

theorem Expression.clausePredicates_eq : ∀ clauses : List (String × Clause),
    Expression.clausePredicates clauses = clauses.flatMap fun c => c.2.predicates c.1
  | [] => by rw [Expression.clausePredicates]; rfl
  | (name, clause) :: rest => by
    rw [Expression.clausePredicates, Expression.clausePredicates_eq rest]
    rfl

theorem Operand.predicates_eq : ∀ operand : Operand,
    operand.predicates = operand.expressions.flatMap Expression.predicates
  | .single e => by simp [Operand.predicates, Operand.expressions]
  | .many es => by
    rw [Operand.predicates]
    change Operand.listPredicates es = es.flatMap Expression.predicates
    induction es with
    | nil => rw [Operand.listPredicates]; rfl
    | cons e rest ih => rw [Operand.listPredicates, ih]; rfl

theorem Combinators.slotPredicates_eq (operand : Option Operand) :
    Combinators.slotPredicates operand =
      (operand.elim [] Operand.expressions).flatMap Expression.predicates := by
  cases operand with
  | none => rw [Combinators.slotPredicates]; rfl
  | some operand => rw [Combinators.slotPredicates, Operand.predicates_eq]; rfl

theorem Combinators.predicates_eq (cs : Combinators) :
    cs.predicates = cs.expressions.flatMap Expression.predicates := by
  obtain ⟨not, and, or⟩ := cs
  rw [Combinators.predicates, Combinators.slotPredicates_eq, Combinators.slotPredicates_eq,
    Combinators.slotPredicates_eq, Combinators.expressions, List.flatMap_append,
    List.flatMap_append]

theorem Combinators.mem_predicates {cs : Combinators} {e : Expression} (he : e ∈ cs.expressions)
    {o : String × Predicate} (ho : o ∈ e.predicates) : o ∈ cs.predicates := by
  rw [Combinators.predicates_eq]
  exact List.mem_flatMap.mpr ⟨e, he, ho⟩

theorem Expression.mem_predicates_of_clause {clauses : List (String × Clause)}
    {combinators : Combinators} {c : String × Clause} (hc : c ∈ clauses)
    {o : String × Predicate} (ho : o ∈ c.2.predicates c.1) :
    o ∈ (Expression.mk clauses combinators).predicates := by
  rw [Expression.predicates, Expression.clausePredicates_eq]
  exact List.mem_append_left _ (List.mem_flatMap.mpr ⟨c, hc, ho⟩)

theorem Expression.mem_predicates_of_combinators {clauses : List (String × Clause)}
    {combinators : Combinators} {o : String × Predicate} (ho : o ∈ combinators.predicates) :
    o ∈ (Expression.mk clauses combinators).predicates := by
  rw [Expression.predicates]
  exact List.mem_append_right _ ho

/-! ## 3. Answers in a scope -/

/-- What a predicate on a field sees in a scope. -/
def Scope.contextOf (scope : Scope) (field : String) : FieldContext where
  field := field
  value := scope.record.get? field
  record := scope.record
  index := scope.index
  dataset := scope.dataset

/-- Every predicate of the list answers in a scope, without failure. -/
def Scope.AllAnswer (scope : Scope) (predicates : List (String × Predicate)) : Prop :=
  ∀ o ∈ predicates, ∃ b, o.2.call (scope.contextOf o.1) = .ok b

theorem Scope.AllAnswer.mono {scope : Scope} {part whole : List (String × Predicate)}
    (h : scope.AllAnswer whole) (sub : ∀ o ∈ part, o ∈ whole) : scope.AllAnswer part :=
  fun o ho => h o (sub o ho)

theorem Predicate.evaluate_outcome {p : Predicate} {context : FieldContext} {b : Bool}
    (h : p.call context = .ok b) : (p.evaluate context).outcome = .ok b := by
  rw [Predicate.evaluate, h]

end RecordFilter
