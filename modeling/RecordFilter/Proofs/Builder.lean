/-
# What the builder makes

An expression is made from the empty one by setting fields and combinators, and an operator set from
the empty one by setting operators and combinators (`Expression.Built`).  Whatever is made so names
no field twice, at any depth, and holds well-formed values only (`Expression.Built.wellFormed`),
which the types alone do not say.

`Expression.Throughout` is the shape of such facts: one about every table of clauses inside an
expression, and one about every value that is compared with.
-/
import RecordFilter.Proofs.Settings

namespace RecordFilter

/-! ## 1. What an expression holds -/

/-- The values that a setting compares with. -/
def Setting.operands : Setting → List Value
  | .equals v | .notEquals v => [v]
  | .greaterThan bound | .greaterThanOrEqual bound | .lessThan bound | .lessThanOrEqual bound =>
    [.ofNumeric bound]
  | .includesEvery vs | .includesSome vs | .includesNone vs => vs
  | _ => []

/-- The expressions that a setting joins. -/
def Setting.expressions : Setting → List Expression
  | .combine _ operand => operand.expressions
  | _ => []

theorem OperatorSet.length_mem_settings_iff {ops inner : OperatorSet} :
    Setting.length inner ∈ ops.settings ↔ ops.length = some inner := by
  rw [OperatorSet.mem_settings_iff, Setting.slot, OperatorSet.get?]
  cases ops.length <;> simp

theorem OperatorSet.combine_mem_settings_iff {ops : OperatorSet} {c : Combinator}
    {operand : Operand} :
    Setting.combine c operand ∈ ops.settings ↔ ops.combinators.get? c = some operand := by
  rw [OperatorSet.mem_settings_iff, Setting.slot, OperatorSet.get?]
  cases ops.combinators.get? c <;> simp

/-- The expressions that an operator set joins are those that its settings join. -/
theorem OperatorSet.mem_expressions_iff {ops : OperatorSet} {e : Expression} :
    e ∈ ops.combinators.expressions ↔ ∃ s ∈ ops.settings, e ∈ s.expressions := by
  rw [Combinators.mem_expressions_iff]
  constructor
  · rintro ⟨c, operand, hget, he⟩
    exact ⟨.combine c operand, OperatorSet.combine_mem_settings_iff.mpr hget, he⟩
  · rintro ⟨s, hs, he⟩
    cases s with
    | combine c operand => exact ⟨c, operand, OperatorSet.combine_mem_settings_iff.mp hs, he⟩
    | _ => cases he

mutual

/-- Every table of clauses in the expression has `T`, and every literal and operand has `V`. -/
inductive Expression.Throughout (T : List (String × Clause) → Prop) (V : Value → Prop) :
    Expression → Prop
  | mk {clauses : List (String × Clause)} {combinators : Combinators} (table : T clauses)
      (each : ∀ c ∈ clauses, Clause.Throughout T V c.2)
      (joined : ∀ e ∈ combinators.expressions, Expression.Throughout T V e) :
      Expression.Throughout T V ⟨clauses, combinators⟩

/-- The same for a clause. -/
inductive Clause.Throughout (T : List (String × Clause) → Prop) (V : Value → Prop) : Clause → Prop
  | literal {v : Value} (h : V v) : Clause.Throughout T V (.literal v)
  | predicate (p : Predicate) : Clause.Throughout T V (.predicate p)
  | operators {ops : OperatorSet} (h : OperatorSet.Throughout T V ops) :
      Clause.Throughout T V (.operators ops)

/-- The same for an operator set. -/
inductive OperatorSet.Throughout (T : List (String × Clause) → Prop) (V : Value → Prop) :
    OperatorSet → Prop
  | mk {ops : OperatorSet} (each : ∀ s ∈ ops.settings, Setting.Throughout T V s) :
      OperatorSet.Throughout T V ops

/-- The same for a setting. -/
inductive Setting.Throughout (T : List (String × Clause) → Prop) (V : Value → Prop) :
    Setting → Prop
  | mk {s : Setting} (operands : ∀ v ∈ s.operands, V v)
      (length : ∀ ops, s = .length ops → OperatorSet.Throughout T V ops)
      (joined : ∀ e ∈ s.expressions, Expression.Throughout T V e) : Setting.Throughout T V s

end

/-- No field is named twice, at any depth, and every value is well formed. -/
def Expression.WellFormed (e : Expression) : Prop :=
  e.Throughout Entries.Distinct Value.WellFormed

/-! ## 2. Building -/

mutual

/-- The expression is made by setting fields and combinators. -/
inductive Expression.Built : Expression → Prop
  | empty : Expression.Built .empty
  | field {e : Expression} (h : Expression.Built e) (name : String) {clause : Clause}
      (hclause : Clause.Built clause) : Expression.Built (e.field name clause)
  | combine {e : Expression} (h : Expression.Built e) (c : Combinator) {operand : Operand}
      (hoperand : ∀ x ∈ operand.expressions, Expression.Built x) :
      Expression.Built (e.combine c operand)

/-- The clause is a value, a predicate, or an operator set that is built. -/
inductive Clause.Built : Clause → Prop
  | literal {v : Value} (h : v.WellFormed) : Clause.Built (.literal v)
  | predicate (p : Predicate) : Clause.Built (.predicate p)
  | operators {ops : OperatorSet} (h : OperatorSet.Built ops) : Clause.Built (.operators ops)

/-- The operator set is made by setting operators and combinators. -/
inductive OperatorSet.Built : OperatorSet → Prop
  | empty : OperatorSet.Built .empty
  | set {ops : OperatorSet} (h : OperatorSet.Built ops) {s : Setting} (hs : Setting.Built s) :
      OperatorSet.Built (ops.set s)

/-- What is set is built itself. -/
inductive Setting.Built : Setting → Prop
  | mk {s : Setting} (operands : ∀ v ∈ s.operands, v.WellFormed)
      (length : ∀ ops, s = .length ops → OperatorSet.Built ops)
      (joined : ∀ e ∈ s.expressions, Expression.Built e) : Setting.Built s

end

section Building

variable {T : List (String × Clause) → Prop} {V : Value → Prop}

theorem Expression.Throughout.empty (hT : T []) : Expression.empty.Throughout T V := by
  refine .mk hT (fun c hc => ?_) fun e he => ?_
  · cases hc
  · simp [Combinators.expressions, Combinators.empty] at he

theorem Expression.Throughout.field {e : Expression} (h : e.Throughout T V) {name : String}
    {clause : Clause} (hT : T e.clauses → T (Entries.put e.clauses name clause))
    (hclause : clause.Throughout T V) : (e.field name clause).Throughout T V := by
  cases h with
  | mk table each joined =>
    refine .mk (hT table) (fun c hc => ?_) joined
    rcases Entries.mem_put hc with rfl | hc
    · exact hclause
    · exact each c hc

theorem Expression.Throughout.combine {e : Expression} (h : e.Throughout T V) (c : Combinator)
    {operand : Operand} (hoperand : ∀ x ∈ operand.expressions, x.Throughout T V) :
    (e.combine c operand).Throughout T V := by
  cases h with
  | mk table each joined =>
    refine .mk table each fun x hx => ?_
    rcases Combinators.mem_expressions_set hx with hx | hx
    · exact hoperand x hx
    · exact joined x hx

theorem OperatorSet.Throughout.empty : OperatorSet.empty.Throughout T V :=
  .mk fun s hs => by simp [OperatorSet.mem_settings_iff, OperatorSet.get?_empty] at hs

theorem OperatorSet.Throughout.set {ops : OperatorSet} (h : ops.Throughout T V) {s : Setting}
    (hs : s.Throughout T V) : (ops.set s).Throughout T V := by
  cases h with
  | mk each =>
    refine .mk fun t ht => ?_
    rcases OperatorSet.mem_settings_set ht with rfl | ht
    · exact hs
    · exact each t ht

end Building

mutual

/-- **What is built is well formed.** -/
theorem Expression.Built.wellFormed : ∀ {e : Expression}, e.Built → e.WellFormed
  | _, .empty => .empty List.nodup_nil
  | _, .field h _ hclause =>
    h.wellFormed.field (fun hdistinct => Entries.distinct_put hdistinct _ _) hclause.wellFormed
  | _, .combine h c hoperand => h.wellFormed.combine c fun x hx => (hoperand x hx).wellFormed

theorem Clause.Built.wellFormed : ∀ {clause : Clause}, clause.Built →
    clause.Throughout Entries.Distinct Value.WellFormed
  | _, .literal h => .literal h
  | _, .predicate p => .predicate p
  | _, .operators h => .operators h.wellFormed

theorem OperatorSet.Built.wellFormed : ∀ {ops : OperatorSet}, ops.Built →
    ops.Throughout Entries.Distinct Value.WellFormed
  | _, .empty => .empty
  | _, .set h hs => h.wellFormed.set hs.wellFormed

theorem Setting.Built.wellFormed : ∀ {s : Setting}, s.Built →
    s.Throughout Entries.Distinct Value.WellFormed
  | _, .mk operands length joined =>
    .mk operands (fun ops h => (length ops h).wellFormed) fun e he => (joined e he).wellFormed

end

end RecordFilter
