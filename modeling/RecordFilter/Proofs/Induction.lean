/-
# Induction over documents, values and expressions

The types of this library nest through lists, pairs and options, so the induction that comes with
them has a motive for each of these.  Here it is packaged once.  For JSON trees the hypothesis is
about every item of an array and every member of an object (`Json.induction`, and
`Json.documentInduction` where objects alone are told from the rest), and for values about items
and entries (`Value.induction`).  For expressions there are two motives, one for
expressions and one for operator sets (`Expression.induction`); clauses, lengths, operands and
combinators are gone through inside, and the hypotheses speak of what occurs in them.

A statement about all expressions is thus two steps, each about one node whose parts have it
already.
-/
import RecordFilter.Expression.Basic
import RecordFilter.Json.Basic

namespace RecordFilter

/-! ## 1. JSON trees and values -/

/-- Induction over JSON trees. -/
@[elab_as_elim]
theorem Json.induction {motive : Json → Prop} (null : motive .null)
    (bool : ∀ b, motive (.bool b)) (number : ∀ n, motive (.number n))
    (string : ∀ s, motive (.string s))
    (array : ∀ items, (∀ item ∈ items, motive item) → motive (.array items))
    (object : ∀ members, (∀ m ∈ members, motive m.2) → motive (.object members))
    (json : Json) : motive json :=
  @Json.rec motive (fun items => ∀ item ∈ items, motive item)
    (fun members => ∀ m ∈ members, motive m.2) (fun m => motive m.2)
    null bool number string array object
    (fun _ h => by simp at h)
    (fun _ _ head tail _ h => (List.mem_cons.mp h).elim (fun e => e ▸ head) (tail _))
    (fun _ h => by simp at h)
    (fun _ _ head tail _ h => (List.mem_cons.mp h).elim (fun e => e ▸ head) (tail _))
    (fun _ _ h => h) json

/-- Induction over JSON trees as documents are read: an object by its members, anything else at
once, up to the items that it has if it is an array. -/
@[elab_as_elim]
theorem Json.documentInduction {motive : Json → Prop}
    (object : ∀ {members}, (∀ m ∈ members, motive m.2) → motive (.object members))
    (other : ∀ {json : Json}, json.kind ≠ .object →
      (∀ items, json = .array items → ∀ item ∈ items, motive item) → motive json)
    (json : Json) : motive json := by
  induction json using Json.induction with
  | object members ih => exact object ih
  | array items ih => exact other (by simp [Json.kind]) fun _ h => Json.array.inj h ▸ ih
  | null | bool | number | string => exact other (by simp [Json.kind]) fun _ h => by simp at h

/-- Induction over values. -/
@[elab_as_elim]
theorem Value.induction {motive : Value → Prop} (null : motive .null)
    (bool : ∀ b, motive (.bool b)) (number : ∀ n, motive (.number n))
    (timestamp : ∀ t, motive (.timestamp t)) (string : ∀ s, motive (.string s))
    (array : ∀ items, (∀ item ∈ items, motive item) → motive (.array items))
    (object : ∀ entries, (∀ e ∈ entries, motive e.2) → motive (.object entries))
    (v : Value) : motive v :=
  @Value.rec motive (fun items => ∀ item ∈ items, motive item)
    (fun entries => ∀ e ∈ entries, motive e.2) (fun e => motive e.2)
    null bool number timestamp string array object
    (fun _ h => by simp at h)
    (fun _ _ head tail _ h => (List.mem_cons.mp h).elim (fun e => e ▸ head) (tail _))
    (fun _ h => by simp at h)
    (fun _ _ head tail _ h => (List.mem_cons.mp h).elim (fun e => e ▸ head) (tail _))
    (fun _ _ h => h) v

/-! ## 2. Expressions and operator sets -/

/-- The expressions that combinators join, in the order in which they take effect. -/
def Combinators.expressions (cs : Combinators) : List Expression :=
  (cs.not.elim [] Operand.expressions) ++ (cs.and.elim [] Operand.expressions)
    ++ (cs.or.elim [] Operand.expressions)

theorem Combinators.mem_expressions_iff {cs : Combinators} {e : Expression} :
    e ∈ cs.expressions ↔ ∃ c operand, cs.get? c = some operand ∧ e ∈ operand.expressions := by
  have hslot : ∀ slot : Option Operand, e ∈ slot.elim [] Operand.expressions ↔
      ∃ operand, slot = some operand ∧ e ∈ operand.expressions := by
    intro slot
    cases slot <;> simp
  rw [Combinators.expressions, List.mem_append, List.mem_append, hslot, hslot, hslot]
  constructor
  · rintro ((h | h) | h)
    · exact ⟨.not, h⟩
    · exact ⟨.and, h⟩
    · exact ⟨.or, h⟩
  · rintro ⟨c, h⟩
    cases c with
    | not => exact .inl (.inl h)
    | and => exact .inl (.inr h)
    | or => exact .inr h

theorem Combinators.mem_expressions_set {cs : Combinators} {c : Combinator} {operand : Operand}
    {e : Expression} (h : e ∈ (cs.set c operand).expressions) :
    e ∈ operand.expressions ∨ e ∈ cs.expressions := by
  obtain ⟨other, found, hget, he⟩ := Combinators.mem_expressions_iff.mp h
  rw [Combinators.get?_set] at hget
  split at hget
  next => exact .inl (Option.some.inj hget ▸ he)
  next => exact .inr (Combinators.mem_expressions_iff.mpr ⟨other, found, hget, he⟩)

section Expressions

variable {P : Expression → Prop} {Q : OperatorSet → Prop}

/-- The two steps of an induction, each about one node whose parts have it already. -/
structure Expression.InductionSteps (P : Expression → Prop) (Q : OperatorSet → Prop) : Prop where
  expression : ∀ clauses combinators,
    (∀ name ops, (name, Clause.operators ops) ∈ clauses → Q ops) →
    (∀ e ∈ Combinators.expressions combinators, P e) → P ⟨clauses, combinators⟩
  operatorSet : ∀ conditions length combinators,
    (∀ ops, length = some ops → Q ops) →
    (∀ e ∈ Combinators.expressions combinators, P e) → Q ⟨conditions, length, combinators⟩

mutual

private theorem Expression.inductionExpression (steps : Expression.InductionSteps P Q) : ∀ e, P e
  | ⟨clauses, combinators⟩ =>
    steps.expression clauses combinators (Expression.inductionClauses steps clauses)
      (Expression.inductionCombinators steps combinators)

private theorem Expression.inductionClauses (steps : Expression.InductionSteps P Q) :
    ∀ (clauses : List (String × Clause)) (name : String) (ops : OperatorSet),
      (name, Clause.operators ops) ∈ clauses → Q ops
  | (_, .operators inner) :: rest, name, ops, h => by
    rcases List.mem_cons.mp h with h | h
    · have e : ops = inner := by simpa using (Prod.mk.inj h).2
      exact e ▸ Expression.inductionOperatorSet steps inner
    · exact Expression.inductionClauses steps rest name ops h
  | (_, .literal _) :: rest, name, ops, h =>
    Expression.inductionClauses steps rest name ops (by simpa using h)
  | (_, .predicate _) :: rest, name, ops, h =>
    Expression.inductionClauses steps rest name ops (by simpa using h)

private theorem Expression.inductionOperatorSet (steps : Expression.InductionSteps P Q) :
    ∀ ops, Q ops
  | ⟨conditions, length, combinators⟩ =>
    steps.operatorSet conditions length combinators (Expression.inductionLength steps length)
      (Expression.inductionCombinators steps combinators)

private theorem Expression.inductionLength (steps : Expression.InductionSteps P Q) :
    ∀ (length : Option OperatorSet) (ops : OperatorSet), length = some ops → Q ops
  | some inner, _, h => Option.some.inj h ▸ Expression.inductionOperatorSet steps inner

private theorem Expression.inductionCombinators (steps : Expression.InductionSteps P Q) :
    ∀ (cs : Combinators) (e : Expression), e ∈ cs.expressions → P e
  | ⟨not, and, or⟩, e, h => by
    rcases List.mem_append.mp h with h | h
    · rcases List.mem_append.mp h with h | h
      · exact Expression.inductionSlot steps not e h
      · exact Expression.inductionSlot steps and e h
    · exact Expression.inductionSlot steps or e h

private theorem Expression.inductionSlot (steps : Expression.InductionSteps P Q) :
    ∀ (operand : Option Operand) (e : Expression), e ∈ operand.elim [] Operand.expressions → P e
  | some operand, e, h => Expression.inductionOperand steps operand e h

private theorem Expression.inductionOperand (steps : Expression.InductionSteps P Q) :
    ∀ (operand : Operand) (e : Expression), e ∈ operand.expressions → P e
  | .single inner, _, h => List.mem_singleton.mp h ▸ Expression.inductionExpression steps inner
  | .many es, e, h => Expression.inductionList steps es e h

private theorem Expression.inductionList (steps : Expression.InductionSteps P Q) :
    ∀ (es : List Expression) (e : Expression), e ∈ es → P e
  | inner :: rest, e, h => by
    rcases List.mem_cons.mp h with h | h
    · exact h ▸ Expression.inductionExpression steps inner
    · exact Expression.inductionList steps rest e h

end

/-- **Induction over expressions and the operator sets in them.**  An expression has what its
operator sets and the expressions it joins have, and so has an operator set. -/
theorem Expression.induction
    (expression : ∀ clauses combinators,
      (∀ name ops, (name, Clause.operators ops) ∈ clauses → Q ops) →
      (∀ e ∈ Combinators.expressions combinators, P e) → P ⟨clauses, combinators⟩)
    (operatorSet : ∀ conditions length combinators,
      (∀ ops, length = some ops → Q ops) →
      (∀ e ∈ Combinators.expressions combinators, P e) → Q ⟨conditions, length, combinators⟩) :
    (∀ e, P e) ∧ ∀ ops, Q ops := by
  have steps : Expression.InductionSteps P Q := ⟨expression, operatorSet⟩
  exact ⟨Expression.inductionExpression steps, Expression.inductionOperatorSet steps⟩

end Expressions

end RecordFilter
