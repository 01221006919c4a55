/-
# What validation passes

Validation is a walk that ends at the first violation.  Whether it passes does not depend on the
order of the walk: an expression passes at a depth when the depth is within the limit, no field of
its own has a reserved name, and its operator sets and the expressions it joins pass one step
deeper (`Expression.validateAt_ok_iff`); an operator set likewise (`OperatorSet.validateAt_ok_iff`).
So what passes at a depth passes at every lesser one (`Expression.validateAt_shallower`).
-/
import RecordFilter.Proofs.Induction
import RecordFilter.Proofs.Results

namespace RecordFilter

variable {limit depth : Nat}

/-! ## 1. Operands and combinators -/

theorem Operand.validateAll_ok_iff : ∀ {es : List Expression},
    Operand.validateAll limit es depth = .ok () ↔ ∀ e ∈ es, e.validateAt limit depth = .ok ()
  | [] => by simp [Operand.validateAll]
  | e :: rest => by
    rw [Operand.validateAll, then_ok_iff, Operand.validateAll_ok_iff, List.forall_mem_cons]

theorem Operand.validateAt_ok_iff {operand : Operand} :
    operand.validateAt limit depth = .ok () ↔
      ∀ e ∈ operand.expressions, e.validateAt limit depth = .ok () := by
  cases operand with
  | single e => rw [Operand.validateAt, Operand.expressions, List.forall_mem_singleton]
  | many es => rw [Operand.validateAt, Operand.expressions, Operand.validateAll_ok_iff]

theorem Combinators.validateOperand_ok_iff {operand : Option Operand} :
    Combinators.validateOperand limit operand depth = .ok () ↔
      ∀ e ∈ operand.elim [] Operand.expressions, e.validateAt limit depth = .ok () := by
  cases operand with
  | none => simp [Combinators.validateOperand]
  | some operand => rw [Combinators.validateOperand, Operand.validateAt_ok_iff, Option.elim_some]

/-- Combinators pass when every expression they join does. -/
theorem Combinators.validateAt_ok_iff {cs : Combinators} :
    cs.validateAt limit depth = .ok () ↔
      ∀ e ∈ cs.expressions, e.validateAt limit depth = .ok () := by
  obtain ⟨not, and, or⟩ := cs
  rw [Combinators.validateAt, then_ok_iff, then_ok_iff, Combinators.validateOperand_ok_iff,
    Combinators.validateOperand_ok_iff, Combinators.validateOperand_ok_iff,
    Combinators.expressions, List.forall_mem_append, List.forall_mem_append, and_assoc]

/-! ## 2. Operator sets -/

theorem OperatorSet.validateLength_ok_iff {length : Option OperatorSet} :
    OperatorSet.validateLength limit length depth = .ok () ↔
      ∀ ops, length = some ops → ops.validateAt limit depth = .ok () := by
  cases length with
  | none => simp [OperatorSet.validateLength]
  | some ops => simp [OperatorSet.validateLength]

/-- **An operator set passes by its parts.** -/
theorem OperatorSet.validateAt_ok_iff {conditions : Conditions} {length : Option OperatorSet}
    {combinators : Combinators} :
    (OperatorSet.mk conditions length combinators).validateAt limit depth = .ok () ↔
      depth ≤ limit ∧
      (∀ ops, length = some ops → ops.validateAt limit (depth + 1) = .ok ()) ∧
      ∀ e ∈ combinators.expressions, e.validateAt limit (depth + 1) = .ok () := by
  rw [OperatorSet.validateAt, then_ok_iff, then_ok_iff, checkDepth_ok_iff,
    OperatorSet.validateLength_ok_iff, Combinators.validateAt_ok_iff]

/-! ## 3. Expressions -/

theorem Expression.validateClauses_ok_iff : ∀ {clauses : List (String × Clause)},
    Expression.validateClauses limit clauses depth = .ok () ↔
      ∀ c ∈ clauses, isReserved c.1 = false ∧ c.2.validateAt limit depth = .ok ()
  | [] => by simp [Expression.validateClauses]
  | (name, clause) :: rest => by
    rw [Expression.validateClauses, List.forall_mem_cons]
    cases hreserved : isReserved name with
    | true => simp [bind, Except.bind]
    | false =>
      simp only [true_and]
      rw [← Expression.validateClauses_ok_iff]
      exact then_ok_iff

/-- **An expression passes by its parts.** -/
theorem Expression.validateAt_ok_iff {clauses : List (String × Clause)}
    {combinators : Combinators} :
    (Expression.mk clauses combinators).validateAt limit depth = .ok () ↔
      depth ≤ limit ∧
      (∀ c ∈ clauses, isReserved c.1 = false ∧ c.2.validateAt limit (depth + 1) = .ok ()) ∧
      ∀ e ∈ combinators.expressions, e.validateAt limit (depth + 1) = .ok () := by
  rw [Expression.validateAt, then_ok_iff, then_ok_iff, checkDepth_ok_iff,
    Expression.validateClauses_ok_iff, Combinators.validateAt_ok_iff]

/-! ## 4. Nearer the top -/

/-- **What passes at a depth passes wherever it lies less deep.** -/
theorem Expression.validateAt_shallower :
    (∀ (e : Expression) {depth shallower : Nat}, shallower ≤ depth →
      e.validateAt limit depth = .ok () → e.validateAt limit shallower = .ok ()) ∧
    ∀ (ops : OperatorSet) {depth shallower : Nat}, shallower ≤ depth →
      ops.validateAt limit depth = .ok () → ops.validateAt limit shallower = .ok () := by
  refine Expression.induction ?_ ?_
  · intro clauses combinators hops hes depth shallower hle h
    obtain ⟨hd, hclauses, hcombinators⟩ := Expression.validateAt_ok_iff.mp h
    refine Expression.validateAt_ok_iff.mpr ⟨by omega, fun c hc => ?_, fun e he => ?_⟩
    · obtain ⟨name, clause⟩ := c
      obtain ⟨hname, hclause⟩ := hclauses _ hc
      refine ⟨hname, ?_⟩
      cases clause with
      | operators ops =>
        rw [Clause.validateAt] at hclause ⊢
        exact hops name ops hc (by omega) hclause
      | literal _ | predicate _ => rw [Clause.validateAt]
    · exact hes e he (by omega) (hcombinators e he)
  · intro conditions length combinators hlength hes depth shallower hle h
    obtain ⟨hd, hinner, hcombinators⟩ := OperatorSet.validateAt_ok_iff.mp h
    exact OperatorSet.validateAt_ok_iff.mpr ⟨by omega,
      fun ops hops => hlength ops hops (by omega) (hinner ops hops),
      fun e he => hes e he (by omega) (hcombinators e he)⟩

/-- What an expression that passes joins passes alone. -/
theorem Expression.check_of_mem {e x : Expression} {limits : Limits}
    (h : e.check limits = .ok ()) (hx : x ∈ e.combinators.expressions) :
    x.check limits = .ok () := by
  obtain ⟨clauses, combinators⟩ := e
  obtain ⟨_, _, hes⟩ := Expression.validateAt_ok_iff.mp h
  exact Expression.validateAt_shallower.1 x (Nat.zero_le 1) (hes x hx)

end RecordFilter
