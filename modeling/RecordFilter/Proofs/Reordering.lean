/-
# The order of clauses and operands

Two expressions differ only in order when the clauses of one stand in another order in the other,
and so do the members of the lists under its combinators, at the top and anywhere inside
(`Expression.Reordered`).  A single expression under a combinator stays single: under `$OR` it is
joined in another way than a list of one.

The order decides which predicates are asked, and so whether one that fails is met.  One of two
evaluations may have a verdict, then, where the other fails.  But a verdict is the formula's
(`Expression.evaluate_settled`), whatever fails, and the formula stops nowhere, so that it does not
see the order (`Expression.formula_reordered`).  Nor do the list of predicates, up to its own order
(`Expression.predicates_reordered`), and validation where it passes
(`Expression.validateAt_reordered`).

Main statement: where both evaluations have a verdict it is the same, and both have one where no
predicate fails (`Expression.evaluateAt_reordered`).
-/
import RecordFilter.Proofs.Formula
import RecordFilter.Proofs.Likeness
import RecordFilter.Proofs.Scans
import RecordFilter.Proofs.Validity

namespace RecordFilter

/-! ## 1. Lists with their items in another order -/

/-- The items of the first list have their partners in the second, one each, in some order. -/
inductive Rearranged {α β : Type} (R : α → β → Prop) : List α → List β → Prop
  | nil : Rearranged R [] []
  | cons {a : α} {b : β} {as : List α} {bs : List β} (h : R a b) (hrest : Rearranged R as bs) :
      Rearranged R (a :: as) (b :: bs)
  | moved {as : List α} {bs bs' : List β} (h : Rearranged R as bs) (p : bs.Perm bs') :
      Rearranged R as bs'

namespace Rearranged

variable {α β γ : Type} {R : α → β → Prop} {as as' : List α} {bs bs' : List β}

theorem refl {R : α → α → Prop} (h : ∀ a ∈ as, R a a) : Rearranged R as as := by
  induction as with
  | nil => exact .nil
  | cons a rest ih =>
    obtain ⟨ha, hrest⟩ := List.forall_mem_cons.mp h
    exact .cons ha (ih hrest)

theorem append (h : Rearranged R as bs) (h' : Rearranged R as' bs') :
    Rearranged R (as ++ as') (bs ++ bs') := by
  induction h with
  | nil => exact h'
  | cons hab _ ih => exact .cons hab ih
  | moved _ p ih => exact ih.moved (p.append_right bs')

/-- What partners have in common comes out in another order. -/
theorem map_perm {f : α → γ} {g : β → γ} (h : Rearranged R as bs)
    (hfg : ∀ a ∈ as, ∀ b, R a b → f a = g b) : (as.map f).Perm (bs.map g) := by
  induction h with
  | nil => exact .refl _
  | @cons a b as bs hab _ ih =>
    obtain ⟨hhead, hrest⟩ := List.forall_mem_cons.mp hfg
    rw [List.map_cons, List.map_cons, hhead b hab]
    exact (ih hrest).cons (g b)
  | moved _ p ih => exact (ih hfg).trans (p.map g)

theorem flatMap_perm {f : α → List γ} {g : β → List γ} (h : Rearranged R as bs)
    (hfg : ∀ a ∈ as, ∀ b, R a b → (f a).Perm (g b)) : (as.flatMap f).Perm (bs.flatMap g) := by
  induction h with
  | nil => exact .refl _
  | @cons a b as bs hab _ ih =>
    obtain ⟨hhead, hrest⟩ := List.forall_mem_cons.mp hfg
    rw [List.flatMap_cons, List.flatMap_cons]
    exact (hhead b hab).append (ih hrest)
  | moved _ p ih => exact (ih hfg).trans (p.flatMap_right g)

theorem all_eq {f : α → Bool} {g : β → Bool} (h : Rearranged R as bs)
    (hfg : ∀ a ∈ as, ∀ b, R a b → f a = g b) : as.all f = bs.all g := by
  have hall := (h.map_perm hfg).all_eq (f := id)
  rwa [List.all_map, List.all_map] at hall

theorem any_eq {f : α → Bool} {g : β → Bool} (h : Rearranged R as bs)
    (hfg : ∀ a ∈ as, ∀ b, R a b → f a = g b) : as.any f = bs.any g := by
  have hany := (h.map_perm hfg).any_eq (f := id)
  rwa [List.any_map, List.any_map] at hany

theorem forall_iff {P : α → Prop} {Q : β → Prop} (h : Rearranged R as bs)
    (hPQ : ∀ a ∈ as, ∀ b, R a b → (P a ↔ Q b)) : (∀ a ∈ as, P a) ↔ ∀ b ∈ bs, Q b := by
  have p := h.map_perm fun a ha b hab => propext (hPQ a ha b hab)
  have hall : (∀ q ∈ as.map P, q) ↔ ∀ q ∈ bs.map Q, q := by simp only [p.mem_iff]
  rwa [List.forall_mem_map, List.forall_mem_map] at hall

end Rearranged

/-! ## 2. Expressions in another order -/

mutual

/-- The expressions differ only in the order of clauses and of the members of lists. -/
inductive Expression.Reordered : Expression → Expression → Prop
  | mk {clauses clauses' : List (String × Clause)} {cs cs' : Combinators}
      (h : Rearranged (Entries.Under Clause.Reordered) clauses clauses')
      (hcs : Combinators.Reordered cs cs') :
      Expression.Reordered ⟨clauses, cs⟩ ⟨clauses', cs'⟩

/-- Only an operator set has an order inside. -/
inductive Clause.Reordered : Clause → Clause → Prop
  | literal (v : Value) : Clause.Reordered (.literal v) (.literal v)
  | predicate (p : Predicate) : Clause.Reordered (.predicate p) (.predicate p)
  | operators {ops ops' : OperatorSet} (h : OperatorSet.Reordered ops ops') :
      Clause.Reordered (.operators ops) (.operators ops')

/-- The operators are the same; their order was never kept. -/
inductive OperatorSet.Reordered : OperatorSet → OperatorSet → Prop
  | mk (conditions : Conditions) {length length' : Option OperatorSet} {cs cs' : Combinators}
      (h : Option.Rel OperatorSet.Reordered length length') (hcs : Combinators.Reordered cs cs') :
      OperatorSet.Reordered ⟨conditions, length, cs⟩ ⟨conditions, length', cs'⟩

/-- A list of operands may stand in another order. -/
inductive Operand.Reordered : Operand → Operand → Prop
  | single {e e' : Expression} (h : Expression.Reordered e e') :
      Operand.Reordered (.single e) (.single e')
  | many {es es' : List Expression} (h : Rearranged Expression.Reordered es es') :
      Operand.Reordered (.many es) (.many es')

/-- The same combinators are set. -/
inductive Combinators.Reordered : Combinators → Combinators → Prop
  | mk {not not' and and' or or' : Option Operand} (hnot : Option.Rel Operand.Reordered not not')
      (hand : Option.Rel Operand.Reordered and and') (hor : Option.Rel Operand.Reordered or or') :
      Combinators.Reordered ⟨not, and, or⟩ ⟨not', and', or'⟩

end

/-- The expressions of an operand, in another order. -/
theorem Operand.Reordered.expressions {operand operand' : Operand}
    (h : operand.Reordered operand') :
    Rearranged Expression.Reordered operand.expressions operand'.expressions := by
  cases h with
  | single h => exact .cons h .nil
  | many h => exact h

theorem Operand.expressions_rearranged {slot slot' : Option Operand}
    (h : Option.Rel Operand.Reordered slot slot') :
    Rearranged Expression.Reordered (slot.elim [] Operand.expressions)
      (slot'.elim [] Operand.expressions) := by
  cases h with
  | none => exact .nil
  | some h => exact h.expressions

/-- The expressions under all combinators, in another order. -/
theorem Combinators.Reordered.expressions {cs cs' : Combinators} (h : cs.Reordered cs') :
    Rearranged Expression.Reordered cs.expressions cs'.expressions := by
  cases h with
  | mk hnot hand hor =>
    have hfirst := (Operand.expressions_rearranged hnot).append (Operand.expressions_rearranged hand)
    exact hfirst.append (Operand.expressions_rearranged hor)

theorem Operand.reordered_refl {slot : Option Operand}
    (h : ∀ e ∈ slot.elim [] Operand.expressions, e.Reordered e) :
    Option.Rel Operand.Reordered slot slot := by
  match slot with
  | none => exact .none
  | some (.single e) => exact .some (.single (h e (List.mem_singleton_self e)))
  | some (.many es) => exact .some (.many (.refl h))

theorem Combinators.reordered_refl {cs : Combinators}
    (h : ∀ e ∈ cs.expressions, e.Reordered e) : cs.Reordered cs := by
  obtain ⟨not, and, or⟩ := cs
  rw [Combinators.expressions, List.forall_mem_append, List.forall_mem_append] at h
  exact .mk (Operand.reordered_refl h.1.1) (Operand.reordered_refl h.1.2)
    (Operand.reordered_refl h.2)

/-- Leaving the order as it is is one way to reorder. -/
theorem Expression.reordered_refl :
    (∀ e : Expression, e.Reordered e) ∧ ∀ ops : OperatorSet, ops.Reordered ops := by
  refine Expression.induction ?_ ?_
  · intro clauses combinators hops hes
    refine .mk (.refl fun c hc => ?_) (Combinators.reordered_refl hes)
    obtain ⟨name, clause⟩ := c
    cases clause with
    | literal v => exact .mk name (.literal v)
    | predicate p => exact .mk name (.predicate p)
    | operators ops => exact .mk name (.operators (hops name ops hc))
  · intro conditions length combinators hlength hes
    refine .mk conditions ?_ (Combinators.reordered_refl hes)
    cases length with
    | none => exact .none
    | some ops => exact .some (hlength ops rfl)

/-! ## 3. The formula does not see the order -/

section Formula

variable {scope : Scope}

/-- The statement of `Expression.formula_reordered` about one expression. -/
def Expression.OrderFree (e : Expression) : Prop :=
  ∀ {e' : Expression}, e.Reordered e' → ∀ scope, e.formula scope = e'.formula scope

theorem Operand.formulaAll_reordered {operand operand' : Operand}
    (h : operand.Reordered operand') (hes : ∀ e ∈ operand.expressions, e.OrderFree) :
    operand.formulaAll scope = operand'.formulaAll scope := by
  rw [Operand.formulaAll_eq, Operand.formulaAll_eq]
  exact h.expressions.all_eq fun e he _ heq => hes e he heq scope

theorem Combinators.foldNot_reordered {operand operand' : Option Operand}
    (h : Option.Rel Operand.Reordered operand operand')
    (hes : ∀ e ∈ operand.elim [] Operand.expressions, e.OrderFree) (acc : Bool) :
    Combinators.foldNot operand acc scope = Combinators.foldNot operand' acc scope := by
  cases h with
  | none => rfl
  | some h =>
    rw [Combinators.foldNot, Combinators.foldNot, Operand.formulaAll_reordered h hes]

theorem Combinators.foldAnd_reordered {operand operand' : Option Operand}
    (h : Option.Rel Operand.Reordered operand operand')
    (hes : ∀ e ∈ operand.elim [] Operand.expressions, e.OrderFree) (acc : Bool) :
    Combinators.foldAnd operand acc scope = Combinators.foldAnd operand' acc scope := by
  cases h with
  | none => rfl
  | some h =>
    rw [Combinators.foldAnd, Combinators.foldAnd, Operand.formulaAll_reordered h hes]

theorem Combinators.foldOr_reordered {operand operand' : Option Operand}
    (h : Option.Rel Operand.Reordered operand operand')
    (hes : ∀ e ∈ operand.elim [] Operand.expressions, e.OrderFree) (acc : Bool) :
    Combinators.foldOr operand acc scope = Combinators.foldOr operand' acc scope := by
  cases h with
  | none => rfl
  | some h =>
    cases h with
    | @single e e' h =>
      have he : e.formula scope = e'.formula scope := hes e (List.mem_singleton_self e) h scope
      rw [Combinators.foldOr, Combinators.foldOr, he]
    | @many es es' h =>
      have hany : es.any (·.formula scope) = es'.any (·.formula scope) :=
        h.any_eq fun e he _ heq => hes e he heq scope
      rw [Combinators.foldOr, Combinators.foldOr, Operand.formulaAny_eq, Operand.formulaAny_eq,
        hany]

theorem Combinators.formula_reordered {cs cs' : Combinators} (h : cs.Reordered cs')
    (hes : ∀ e ∈ cs.expressions, e.OrderFree) : cs.formula scope = cs'.formula scope := by
  cases h with
  | mk hnot hand hor =>
    rw [Combinators.formula, Combinators.formula,
      Combinators.foldNot_reordered hnot fun e he =>
        hes e (List.mem_append_left _ (List.mem_append_left _ he)),
      Combinators.foldAnd_reordered hand fun e he =>
        hes e (List.mem_append_left _ (List.mem_append_right _ he)),
      Combinators.foldOr_reordered hor fun e he => hes e (List.mem_append_right _ he)]

/-- **The formula does not see the order.**  So it is for operator sets, on any value. -/
theorem Expression.formula_reordered :
    (∀ e : Expression, e.OrderFree) ∧
    ∀ (ops : OperatorSet) {ops' : OperatorSet}, ops.Reordered ops' → ∀ value scope,
      ops.formula value scope = ops'.formula value scope := by
  refine Expression.induction ?_ ?_
  · intro clauses combinators hops hes e' h scope
    cases h with
    | @mk _ clauses' _ _ hclauses hcs =>
      have hall : (clauses.all fun c => c.2.formula c.1 scope) =
          clauses'.all fun c => c.2.formula c.1 scope := by
        refine hclauses.all_eq fun c hc c' hunder => ?_
        cases hunder with
        | mk name hclause =>
          cases hclause with
          | literal v => rfl
          | predicate p => rfl
          | operators h =>
            rw [Clause.formula, Clause.formula]
            exact hops name _ hc h _ scope
      rw [Expression.formula, Expression.formula, Expression.clausesFormula_eq,
        Expression.clausesFormula_eq, hall, Combinators.formula_reordered hcs hes]
  · intro conditions length combinators hlength hes ops' h value scope
    cases h with
    | @mk _ _ length' _ _ hrel hcs =>
      have hholds : OperatorSet.lengthHolds length value scope =
          OperatorSet.lengthHolds length' value scope := by
        cases hrel with
        | none => rfl
        | some h =>
          cases value with
          | none => rfl
          | some v =>
            cases v with
            | array items => exact hlength _ rfl h _ scope
            | null | bool | number | timestamp | string | object => rfl
      rw [OperatorSet.formula_eq, OperatorSet.formula_eq, hholds,
        Combinators.formula_reordered hcs hes]

end Formula

/-! ## 4. The predicates and the depths do not either -/

/-- **The same predicates occur**, in another order. -/
theorem Expression.predicates_reordered :
    (∀ (e : Expression) {e' : Expression}, e.Reordered e' → e.predicates.Perm e'.predicates) ∧
    ∀ (ops : OperatorSet) {ops' : OperatorSet}, ops.Reordered ops' →
      ops.predicates.Perm ops'.predicates := by
  have hcombinators : ∀ {cs cs' : Combinators}, cs.Reordered cs' →
      (∀ e ∈ cs.expressions, ∀ {e' : Expression}, e.Reordered e' →
        e.predicates.Perm e'.predicates) → cs.predicates.Perm cs'.predicates := by
    intro cs cs' h hes
    rw [Combinators.predicates_eq, Combinators.predicates_eq]
    exact h.expressions.flatMap_perm fun e he _ heq => hes e he heq
  refine Expression.induction ?_ ?_
  · intro clauses combinators hops hes e' h
    cases h with
    | mk hclauses hcs =>
      rw [Expression.predicates, Expression.predicates, Expression.clausePredicates_eq,
        Expression.clausePredicates_eq]
      refine (hclauses.flatMap_perm fun c hc c' hunder => ?_).append (hcombinators hcs hes)
      cases hunder with
      | mk name hclause =>
        cases hclause with
        | literal v => exact .refl _
        | predicate p => exact .refl _
        | operators h =>
          rw [Clause.predicates, Clause.predicates]
          exact hops name _ hc h
  · intro conditions length combinators hlength hes ops' h
    cases h with
    | mk _ hrel hcs =>
      rw [OperatorSet.predicates, OperatorSet.predicates]
      refine List.Perm.append ?_ (hcombinators hcs hes)
      cases hrel with
      | none => exact .refl _
      | some h =>
        rw [OperatorSet.lengthPredicates, OperatorSet.lengthPredicates]
        exact hlength _ rfl h

/-- **Validation passes both or neither**, at any depth. -/
theorem Expression.validateAt_reordered {limit : Nat} :
    (∀ (e : Expression) {e' : Expression}, e.Reordered e' → ∀ depth,
      e.validateAt limit depth = .ok () ↔ e'.validateAt limit depth = .ok ()) ∧
    ∀ (ops : OperatorSet) {ops' : OperatorSet}, ops.Reordered ops' → ∀ depth,
      ops.validateAt limit depth = .ok () ↔ ops'.validateAt limit depth = .ok () := by
  refine Expression.induction ?_ ?_
  · intro clauses combinators hops hes e' h depth
    cases h with
    | mk hclauses hcs =>
      rw [Expression.validateAt_ok_iff, Expression.validateAt_ok_iff]
      refine and_congr_right fun _ => and_congr (hclauses.forall_iff fun c hc c' hunder => ?_)
        (hcs.expressions.forall_iff fun e he _ heq => hes e he heq (depth + 1))
      cases hunder with
      | mk name hclause =>
        refine and_congr_right fun _ => ?_
        cases hclause with
        | literal v => exact .rfl
        | predicate p => exact .rfl
        | operators h =>
          rw [Clause.validateAt, Clause.validateAt]
          exact hops name _ hc h (depth + 1)
  · intro conditions length combinators hlength hes ops' h depth
    cases h with
    | mk _ hrel hcs =>
      rw [OperatorSet.validateAt_ok_iff, OperatorSet.validateAt_ok_iff]
      refine and_congr_right fun _ => and_congr ?_
        (hcs.expressions.forall_iff fun e he _ heq => hes e he heq (depth + 1))
      cases hrel with
      | none => simp
      | some h =>
        simp only [Option.some.injEq, forall_eq']
        exact hlength _ rfl h (depth + 1)

/-! ## 5. Verdicts -/

/-- Both verdicts are the formula's. -/
theorem Expression.Reordered.verdict_eq {e e' : Expression} (h : e.Reordered e') {scope : Scope}
    {b b' : Bool} (hb : (e.evaluate scope).outcome = .ok b)
    (hb' : (e'.evaluate scope).outcome = .ok b') : b = b' :=
  calc b = e.formula scope := e.evaluate_settled scope b hb
    _ = e'.formula scope := Expression.formula_reordered.1 e h scope
    _ = b' := (e'.evaluate_settled scope b' hb').symm

theorem Expression.Reordered.resultAt_eq {e e' : Expression} (h : e.Reordered e')
    {dataset : List Record} {index : Nat} {b b' : Bool} (hb : e.resultAt dataset index = .ok b)
    (hb' : e'.resultAt dataset index = .ok b') : b = b' := by
  unfold Expression.resultAt at hb hb'
  cases hrecord : dataset[index]? with
  | some record =>
    simp only [hrecord, Evaluation.result_ok_iff] at hb hb'
    exact h.verdict_eq hb hb'
  | none =>
    simp only [hrecord] at hb hb'
    exact Except.ok.inj (hb.symm.trans hb')

/-- **The order does not change a verdict.**  Where both of two expressions that differ only in
order have a verdict on a record, it is the same, and both have one where no predicate fails.  Both
pass validation or neither does, so the same holds of the question about the record at an index. -/
theorem Expression.evaluateAt_reordered {e e' : Expression} (h : e.Reordered e')
    (dataset : List Record) (index : Nat) :
    (∀ record b b', (e.evaluateAt dataset index record).result = .ok b →
      (e'.evaluateAt dataset index record).result = .ok b' → b = b') ∧
    (∀ record, (∀ o ∈ e.predicates, ∃ b,
        o.2.call (Scope.contextOf ⟨dataset, index, record⟩ o.1) = .ok b) →
      ∃ b, (e.evaluateAt dataset index record).result = .ok b ∧
        (e'.evaluateAt dataset index record).result = .ok b) ∧
    ∀ limits, ((e.validate limits).result = .ok () ↔ (e'.validate limits).result = .ok ()) ∧
      ∀ b b', (e.matchesAt dataset index limits).result = .ok b →
        (e'.matchesAt dataset index limits).result = .ok b' → b = b' := by
  refine ⟨fun record b b' hb hb' => ?_, fun record answers => ?_, fun limits => ⟨?_, ?_⟩⟩
  · exact h.verdict_eq (Evaluation.result_ok_iff.mp hb) (Evaluation.result_ok_iff.mp hb')
  · have answers' : Scope.AllAnswer ⟨dataset, index, record⟩ e'.predicates := fun o ho =>
      answers o ((Expression.predicates_reordered.1 e h).mem_iff.mpr ho)
    have houtcome := (Expression.evaluate_outcome _).1 e answers
    have houtcome' := (Expression.evaluate_outcome _).1 e' answers'
    rw [← Expression.formula_reordered.1 e h] at houtcome'
    exact ⟨_, Evaluation.result_ok_iff.mpr houtcome, Evaluation.result_ok_iff.mpr houtcome'⟩
  · rw [(Expression.validate_ends e limits).1, (Expression.validate_ends e' limits).1]
    exact Expression.validateAt_reordered.1 e h 0
  · intro b b' hb hb'
    rw [Expression.matchesAt_result, then_ok_iff] at hb hb'
    exact h.resultAt_eq hb.2 hb'.2

/-- Asks for an identity, and of the number of tags for nothing but that one of the expressions
matches. -/
def Expression.oneOf (es : List Expression) : Expression :=
  ⟨[("id", .literal (.bool true)),
    ("tags", .operators ⟨{}, some ⟨{}, none, ⟨none, none, some (.many es)⟩⟩, .empty⟩)], .empty⟩

/-- The same with the clauses the other way round. -/
def Expression.oneOfFlipped (es : List Expression) : Expression :=
  ⟨[("tags", .operators ⟨{}, some ⟨{}, none, ⟨none, none, some (.many es)⟩⟩, .empty⟩),
    ("id", .literal (.bool true))], .empty⟩

theorem Expression.oneOf_reordered {es es' : List Expression}
    (h : Rearranged Expression.Reordered es es') :
    (Expression.oneOf es).Reordered (Expression.oneOfFlipped es') := by
  have hlength : OperatorSet.Reordered ⟨{}, none, ⟨none, none, some (.many es)⟩⟩
      ⟨{}, none, ⟨none, none, some (.many es')⟩⟩ := .mk {} .none (.mk .none .none (.some (.many h)))
  have htags : Clause.Reordered
      (.operators ⟨{}, some ⟨{}, none, ⟨none, none, some (.many es)⟩⟩, .empty⟩)
      (.operators ⟨{}, some ⟨{}, none, ⟨none, none, some (.many es')⟩⟩, .empty⟩) :=
    .operators (.mk {} (.some hlength) (.mk .none .none .none))
  have hid : Clause.Reordered (.literal (.bool true)) (.literal (.bool true)) := .literal _
  exact .mk (.moved (.cons (.mk "id" hid) (.cons (.mk "tags" htags) .nil)) (.swap ..))
    (.mk .none .none .none)

/-- The predicate between the two others fails, and neither order comes to it: the empty expression
matches, and so does the one with a clause. -/
theorem Expression.oneOf_evaluateAt :
    let record : Record := ⟨[("id", .bool true), ("tags", .array [.null])]⟩
    let named : Expression := ⟨[("id", .literal (.bool true))], .empty⟩
    let failing : Expression := ⟨[("flag", .predicate ⟨fun _ => .error "missing"⟩)], .empty⟩
    let e := Expression.oneOf [named, failing, .empty]
    let e' := Expression.oneOfFlipped [.empty, failing, named]
    e.Reordered e' ∧ (failing.evaluateAt [record] 0 record).result.isOk = false ∧
      ∃ b b', (e.evaluateAt [record] 0 record).result = .ok b ∧
        (e'.evaluateAt [record] 0 record).result = .ok b' ∧ b = b' := by
  intro record named failing e e'
  have hes : Rearranged Expression.Reordered [named, failing, .empty] [.empty, failing, named] :=
    .moved (.refl fun e _ => Expression.reordered_refl.1 e)
      (List.reverse_perm [named, failing, .empty]).symm
  have h : e.Reordered e' := Expression.oneOf_reordered hes
  have hb : (e.evaluateAt [record] 0 record).result = .ok true := rfl
  have hb' : (e'.evaluateAt [record] 0 record).result = .ok true := rfl
  exact ⟨h, rfl, true, true, hb, hb',
    (Expression.evaluateAt_reordered h [record] 0).1 record true true hb hb'⟩

end RecordFilter
