/-
# The single expression under `$OR`

A list under `$OR` is joined with the other combinators: one of its expressions must match besides.
A single expression is not: it is an alternative to the other combinators, and matches in their
place where they do not.  So it is one of two members of a list, of which the other has the other
combinators; this list stands under an `$AND`, where it is joined with the clauses
(`Combinators.listed`).

The step from the one form to the other is a rule for combinators, and rewriting by a rule from the
inside to the outside keeps the evaluation of whole expressions if the rule keeps that of the
combinators it is applied to (`Expression.evaluate_rewrite`).  By this rule every single expression
under `$OR` goes away: what the rule writes has none, and what it takes over has been rewritten.
-/
import RecordFilter.Proofs.Joins
import RecordFilter.Proofs.Nesting

namespace RecordFilter

/-! ## 1. The rule -/

namespace Combinators

/-- The list of the other combinators and an expression under `$OR`, and this under `$AND`. -/
def listed (not and : Option Operand) (x : Expression) : Combinators :=
  ⟨none, some (.single (.under .or (.many [⟨[], ⟨not, and, none⟩⟩, x]))), none⟩

/-- A single expression under `$OR` is listed; all other combinators stay. -/
def listOr : Combinators → Combinators
  | ⟨not, and, some (.single x)⟩ => listed not and x
  | cs => cs

/-- **A single expression is an alternative.**  The list asks the other combinators first, and the
expression where they do not match. -/
theorem evaluate_listed (not and : Option Operand) (x : Expression) (scope : Scope) :
    (listed not and x).evaluate scope =
      (Combinators.mk not and (some (.single x))).evaluate scope := by
  have hothers : (Expression.mk [] ⟨not, and, none⟩).evaluate scope =
      (evaluateNot not scope).andThen fun _ => evaluateAnd and scope := by
    rw [Expression.evaluate_eq, Combinators.evaluate, evaluateOr]
    rfl
  calc (listed not and x).evaluate scope
      = (Expression.under .or (.many [⟨[], ⟨not, and, none⟩⟩, x])).evaluate scope := by
        rw [listed, Combinators.evaluate, evaluateOr, evaluateNot, evaluateAnd,
          Operand.evaluateAll]
        rfl
    _ = ((evaluateNot not scope).andThen fun _ => evaluateAnd and scope).orElse
          fun _ => x.evaluate scope := by
        rw [Expression.evaluate_under_or, List.map_cons, List.map_singleton, Evaluation.any,
          Evaluation.any, Evaluation.any, Evaluation.orElse_verdict_false, hothers]
    _ = (Combinators.mk not and (some (.single x))).evaluate scope := by
        rw [Combinators.evaluate, evaluateOr]

theorem evaluate_listOr (cs : Combinators) (scope : Scope) :
    cs.listOr.evaluate scope = cs.evaluate scope := by
  match cs with
  | ⟨not, and, some (.single x)⟩ => exact evaluate_listed not and x scope
  | ⟨_, _, none⟩ | ⟨_, _, some (.many _)⟩ => rfl

/-- Without other combinators there is nothing to be an alternative to. -/
theorem evaluate_lone_or (x : Expression) (scope : Scope) :
    (Combinators.mk none none (some (.single x))).evaluate scope = .verdict true := by
  rw [Combinators.evaluate, evaluateOr, evaluateNot, evaluateAnd]
  rfl

end Combinators

/-! ## 2. Rewriting everywhere -/

/-- An operand with other expressions. -/
def Operand.map (f : Expression → Expression) : Operand → Operand
  | .single e => .single (f e)
  | .many es => .many (es.map f)

/-- Combinators with other expressions. -/
def Combinators.map (f : Expression → Expression) (cs : Combinators) : Combinators :=
  ⟨cs.not.map (Operand.map f), cs.and.map (Operand.map f), cs.or.map (Operand.map f)⟩

mutual

/-- The expression with all combinators in it rewritten by a rule, those inside first. -/
def Expression.rewrite (rule : Combinators → Combinators) : Expression → Expression
  | ⟨clauses, combinators⟩ => ⟨Expression.rewriteClauses rule clauses, combinators.rewrite rule⟩

/-- Clauses with the operator sets rewritten. -/
def Expression.rewriteClauses (rule : Combinators → Combinators) :
    List (String × Clause) → List (String × Clause)
  | [] => []
  | (name, clause) :: rest => (name, clause.rewrite rule) :: Expression.rewriteClauses rule rest

/-- A clause with its operator set rewritten, if it is one. -/
def Clause.rewrite (rule : Combinators → Combinators) : Clause → Clause
  | .operators ops => .operators (ops.rewrite rule)
  | .literal v => .literal v
  | .predicate p => .predicate p

/-- An operator set with its length and its combinators rewritten. -/
def OperatorSet.rewrite (rule : Combinators → Combinators) : OperatorSet → OperatorSet
  | ⟨conditions, length, combinators⟩ =>
    ⟨conditions, OperatorSet.rewriteLength rule length, combinators.rewrite rule⟩

/-- The operator set of a length, rewritten. -/
def OperatorSet.rewriteLength (rule : Combinators → Combinators) :
    Option OperatorSet → Option OperatorSet
  | none => none
  | some ops => some (ops.rewrite rule)

/-- Combinators by the rule, once their expressions are rewritten. -/
def Combinators.rewrite (rule : Combinators → Combinators) : Combinators → Combinators
  | ⟨not, and, or⟩ => rule ⟨Combinators.rewriteSlot rule not, Combinators.rewriteSlot rule and,
      Combinators.rewriteSlot rule or⟩

/-- The operand of a combinator, rewritten. -/
def Combinators.rewriteSlot (rule : Combinators → Combinators) : Option Operand → Option Operand
  | none => none
  | some operand => some (operand.rewrite rule)

/-- An operand with its expressions rewritten. -/
def Operand.rewrite (rule : Combinators → Combinators) : Operand → Operand
  | .single e => .single (e.rewrite rule)
  | .many es => .many (Operand.rewriteAll rule es)

/-- A list of expressions, rewritten. -/
def Operand.rewriteAll (rule : Combinators → Combinators) : List Expression → List Expression
  | [] => []
  | e :: rest => e.rewrite rule :: Operand.rewriteAll rule rest

end

section Rewriting

variable {rule : Combinators → Combinators}

theorem Operand.rewriteAll_eq : ∀ es : List Expression,
    Operand.rewriteAll rule es = es.map (Expression.rewrite rule)
  | [] => by rw [Operand.rewriteAll, List.map_nil]
  | e :: rest => by rw [Operand.rewriteAll, Operand.rewriteAll_eq rest, List.map_cons]

theorem Operand.rewrite_eq (operand : Operand) :
    operand.rewrite rule = operand.map (Expression.rewrite rule) := by
  cases operand with
  | single e => rw [Operand.rewrite, Operand.map]
  | many es => rw [Operand.rewrite, Operand.map, Operand.rewriteAll_eq]

theorem Combinators.rewriteSlot_eq (slot : Option Operand) :
    Combinators.rewriteSlot rule slot = slot.map (Operand.map (Expression.rewrite rule)) := by
  cases slot with
  | none => rw [Combinators.rewriteSlot, Option.map_none]
  | some operand => rw [Combinators.rewriteSlot, Option.map_some, Operand.rewrite_eq]

theorem Combinators.rewrite_eq (cs : Combinators) :
    cs.rewrite rule = rule (cs.map (Expression.rewrite rule)) := by
  obtain ⟨not, and, or⟩ := cs
  rw [Combinators.rewrite, Combinators.rewriteSlot_eq, Combinators.rewriteSlot_eq,
    Combinators.rewriteSlot_eq]
  rfl

theorem Expression.rewriteClauses_eq : ∀ clauses : List (String × Clause),
    Expression.rewriteClauses rule clauses = clauses.map fun c => (c.1, c.2.rewrite rule)
  | [] => by rw [Expression.rewriteClauses, List.map_nil]
  | (name, clause) :: rest => by
    rw [Expression.rewriteClauses, Expression.rewriteClauses_eq rest, List.map_cons]

theorem Operand.expressions_map (f : Expression → Expression) (operand : Operand) :
    (operand.map f).expressions = operand.expressions.map f := by
  cases operand <;> rfl

theorem Combinators.expressions_map (f : Expression → Expression) (cs : Combinators) :
    (cs.map f).expressions = cs.expressions.map f := by
  have hslot : ∀ slot : Option Operand, (slot.map (Operand.map f)).elim [] Operand.expressions =
      (slot.elim [] Operand.expressions).map f := by
    intro slot
    cases slot with
    | none => rfl
    | some operand => exact Operand.expressions_map f operand
  simp only [Combinators.expressions, Combinators.map, hslot, List.map_append]

/-! ## 3. Rewriting keeps the evaluation -/

theorem Operand.evaluateAll_map {f : Expression → Expression} {operand : Operand} {scope : Scope}
    (h : ∀ e ∈ operand.expressions, (f e).evaluate scope = e.evaluate scope) :
    (operand.map f).evaluateAll scope = operand.evaluateAll scope := by
  rw [Operand.evaluateAll_eq, Operand.evaluateAll_eq, Operand.expressions_map, List.map_map]
  exact congrArg Evaluation.every (List.map_congr_left h)

/-- Combinators evaluate by the evaluations of their expressions. -/
theorem Combinators.evaluate_map {f : Expression → Expression} {cs : Combinators} {scope : Scope}
    (h : ∀ e ∈ cs.expressions, (f e).evaluate scope = e.evaluate scope) :
    (cs.map f).evaluate scope = cs.evaluate scope := by
  obtain ⟨not, and, or⟩ := cs
  simp only [Combinators.expressions, List.forall_mem_append] at h
  obtain ⟨⟨hnot, hand⟩, hor⟩ := h
  have hnot' : evaluateNot (not.map (Operand.map f)) scope = evaluateNot not scope := by
    cases not with
    | none => rfl
    | some operand =>
      rw [Option.map_some, evaluateNot, evaluateNot, Operand.evaluateAll_map hnot]
  have hand' : evaluateAnd (and.map (Operand.map f)) scope = evaluateAnd and scope := by
    cases and with
    | none => rfl
    | some operand =>
      rw [Option.map_some, evaluateAnd, evaluateAnd, Operand.evaluateAll_map hand]
  have hor' : ∀ before, evaluateOr (or.map (Operand.map f)) before scope =
      evaluateOr or before scope := by
    intro before
    cases or with
    | none => rfl
    | some operand =>
      cases operand with
      | single x =>
        rw [Option.map_some, Operand.map, evaluateOr, evaluateOr, hor x List.mem_cons_self]
      | many es =>
        rw [Option.map_some, Operand.map, evaluateOr, evaluateOr, Operand.evaluateAny_eq,
          Operand.evaluateAny_eq, List.map_map]
        exact congrArg (fun tail => before.andThen fun _ => .any tail) (List.map_congr_left hor)
  rw [Combinators.map, Combinators.evaluate, Combinators.evaluate, hnot', hand', hor']

/-- **Rewriting everywhere keeps the evaluation** if the rule keeps that of combinators. -/
theorem Expression.evaluate_rewrite
    (hrule : ∀ cs scope, (rule cs).evaluate scope = cs.evaluate scope) :
    (∀ (e : Expression) (scope : Scope), (e.rewrite rule).evaluate scope = e.evaluate scope) ∧
    ∀ (ops : OperatorSet) (value : Option Value) (scope : Scope),
      (ops.rewrite rule).evaluate value scope = ops.evaluate value scope := by
  have hcombinators : ∀ {cs : Combinators} (scope : Scope),
      (∀ e ∈ cs.expressions, (e.rewrite rule).evaluate scope = e.evaluate scope) →
      (cs.rewrite rule).evaluate scope = cs.evaluate scope := by
    intro cs scope hes
    rw [Combinators.rewrite_eq, hrule, Combinators.evaluate_map hes]
  refine Expression.induction ?_ ?_
  · intro clauses combinators hops hes scope
    have hjoined := hcombinators scope fun e he => hes e he scope
    have hclause : ∀ c ∈ clauses,
        (c.2.rewrite rule).evaluate c.1 scope = c.2.evaluate c.1 scope := by
      rintro ⟨name, clause⟩ hc
      cases clause with
      | operators ops => exact hops name ops hc (scope.record.get? name) scope
      | literal _ | predicate _ => rfl
    rw [Expression.rewrite, Expression.evaluate_eq, Expression.evaluate_eq,
      Expression.rewriteClauses_eq, List.map_map, hjoined]
    exact congrArg (fun head => (Evaluation.every head).andThen fun _ => combinators.evaluate scope)
      (List.map_congr_left hclause)
  · intro conditions length combinators hlength hes value scope
    have hjoined := hcombinators scope fun e he => hes e he scope
    -- A set of a length stays a set of a length, so the same operators are ignored.
    have hconfigured : OperatorSet.configured ⟨conditions, OperatorSet.rewriteLength rule length,
        combinators.rewrite rule⟩ = OperatorSet.configured ⟨conditions, length, combinators⟩ := by
      cases length <;> rfl
    have hlength' : OperatorSet.evaluateLength (OperatorSet.rewriteLength rule length) value scope =
        OperatorSet.evaluateLength length value scope := by
      match length, value with
      | none, _ => rfl
      | some ops, some (.array items) =>
        rw [OperatorSet.rewriteLength, OperatorSet.evaluateLength, OperatorSet.evaluateLength]
        exact hlength ops rfl _ scope
      | some _, none | some _, some .null | some _, some (.bool _) | some _, some (.number _)
      | some _, some (.timestamp _) | some _, some (.string _) | some _, some (.object _) => rfl
    rw [OperatorSet.rewrite, OperatorSet.evaluate, OperatorSet.evaluate, hjoined, hlength',
      hconfigured]

end Rewriting

/-! ## 4. No single expression is left -/

/-- Nowhere in a node does a single expression stand under `$OR`. -/
def Node.NoSingleOr (x : Node) : Prop :=
  ∀ y depth, x.Nests y depth → ∀ e, y.combinators.or ≠ some (.single e)

theorem Node.noSingleOr_of_holds {x : Node} (hself : ∀ e, x.combinators.or ≠ some (.single e))
    (hheld : ∀ y, x.Holds y → y.NoSingleOr) : x.NoSingleOr := by
  intro y depth hy
  cases hy with
  | self => exact hself
  | step holds hnests => exact hheld _ holds y _ hnests

namespace Combinators

theorem listOr_or (cs : Combinators) (e : Expression) : cs.listOr.or ≠ some (.single e) := by
  match cs with
  | ⟨_, _, some (.single _)⟩ | ⟨_, _, none⟩ | ⟨_, _, some (.many _)⟩ => exact nofun

/-- What the rule writes has no single expression under `$OR`, if what it takes over has none. -/
theorem noSingleOr_listed {not and : Option Operand} {x : Expression}
    (h : ∀ e ∈ (Combinators.mk not and (some (.single x))).expressions,
      (Node.expression e).NoSingleOr) :
    ∀ e ∈ (listed not and x).expressions, (Node.expression e).NoSingleOr := by
  -- Two nodes are new, the list under `$OR` and its first member; neither has a clause.
  have hx : (Node.expression x).NoSingleOr := h x (List.mem_append_right _ List.mem_cons_self)
  have hothers : (Node.expression ⟨[], ⟨not, and, none⟩⟩).NoSingleOr := by
    refine Node.noSingleOr_of_holds (fun _ h => by cases h) fun y hy => ?_
    cases hy with
    | clause hc => cases hc
    | operand he =>
      refine h _ (List.mem_append_left _ ?_)
      simpa [Node.combinators, expressions] using he
  intro e he
  obtain rfl : e = .under .or (.many [⟨[], ⟨not, and, none⟩⟩, x]) := List.mem_singleton.mp he
  refine Node.noSingleOr_of_holds (fun _ h => by cases h) fun y hy => ?_
  cases hy with
  | clause hc => cases hc
  | operand he =>
    have hmem : ∀ e' ∈ [⟨[], ⟨not, and, none⟩⟩, x], (Node.expression e').NoSingleOr := by
      simp [hx, hothers]
    exact hmem _ he

theorem noSingleOr_listOr {cs : Combinators}
    (h : ∀ e ∈ cs.expressions, (Node.expression e).NoSingleOr) :
    ∀ e ∈ cs.listOr.expressions, (Node.expression e).NoSingleOr := by
  match cs with
  | ⟨_, _, some (.single _)⟩ => exact noSingleOr_listed h
  | ⟨_, _, none⟩ | ⟨_, _, some (.many _)⟩ => exact h

end Combinators

/-- **Rewriting by the rule leaves no single expression under `$OR`.** -/
theorem Expression.noSingleOr_rewrite :
    (∀ e : Expression, (Node.expression (e.rewrite .listOr)).NoSingleOr) ∧
    ∀ ops : OperatorSet, (Node.operators (ops.rewrite .listOr)).NoSingleOr := by
  -- The rule is applied last, to combinators whose expressions have been rewritten.
  have hheld : ∀ {cs : Combinators},
      (∀ e ∈ cs.expressions, (Node.expression (e.rewrite .listOr)).NoSingleOr) →
      ∀ e ∈ (cs.rewrite .listOr).expressions, (Node.expression e).NoSingleOr := by
    intro cs hes
    rw [Combinators.rewrite_eq]
    refine Combinators.noSingleOr_listOr ?_
    rw [Combinators.expressions_map]
    exact List.forall_mem_map.mpr hes
  refine Expression.induction ?_ ?_
  · intro clauses combinators hops hes
    refine Node.noSingleOr_of_holds ?_ fun y hy => ?_
    · rw [Expression.rewrite, Combinators.rewrite_eq]
      exact Combinators.listOr_or _
    · rw [Expression.rewrite] at hy
      cases hy with
      | operand he => exact hheld hes _ he
      | clause hc =>
        rw [Expression.rewriteClauses_eq] at hc
        obtain ⟨⟨name, clause⟩, hmem, heq⟩ := List.mem_map.mp hc
        cases clause with
        | operators ops =>
          obtain ⟨rfl, rfl⟩ := by simpa [Clause.rewrite] using heq
          exact hops name ops hmem
        | literal _ | predicate _ => simp [Clause.rewrite] at heq
  · intro conditions length combinators hlength hes
    refine Node.noSingleOr_of_holds ?_ fun y hy => ?_
    · rw [OperatorSet.rewrite, Combinators.rewrite_eq]
      exact Combinators.listOr_or _
    · rw [OperatorSet.rewrite] at hy
      cases hy with
      | operand he => exact hheld hes _ he
      | length h =>
        cases length with
        | none => cases h
        | some ops =>
          obtain rfl := Option.some.inj h
          exact hlength ops rfl

/-! ## 5. Single expressions and clauses -/

theorem Expression.evaluateClauses_no_match {clauses : List (String × Clause)}
    {c : String × Clause} {scope : Scope} (hc : c ∈ clauses)
    (h : (c.2.evaluate c.1 scope).outcome ≠ .ok true) :
    (Expression.evaluateClauses clauses scope).outcome ≠ .ok true := by
  rw [Expression.evaluateClauses_eq]
  exact Evaluation.every_no_match h (List.mem_map.mpr ⟨c, hc, rfl⟩)

/-- **A single expression under `$OR` is a list under `$OR`, of the other combinators and itself.**
It can be written so in every expression and in every operator set; written so everywhere in an
expression, no single expression is left under `$OR`, and the evaluation is the same, with its
failures and all of its events.  Without other combinators the single expression has no effect, and
it does not make up for a clause that is no match. -/
theorem single_or_listed :
    (∀ clauses not and x scope,
      (Expression.mk clauses ⟨not, and, some (.single x)⟩).evaluate scope =
        (Expression.mk clauses (.listed not and x)).evaluate scope) ∧
    (∀ conditions length not and x value scope,
      (OperatorSet.mk conditions length ⟨not, and, some (.single x)⟩).evaluate value scope =
        (OperatorSet.mk conditions length (.listed not and x)).evaluate value scope) ∧
    (∀ e : Expression,
      (∀ y depth, (Node.expression (e.rewrite .listOr)).Nests y depth →
        ∀ x, y.combinators.or ≠ some (.single x)) ∧
      ∀ scope, (e.rewrite .listOr).evaluate scope = e.evaluate scope) ∧
    (∀ clauses x scope,
      (Expression.mk clauses ⟨none, none, some (.single x)⟩).evaluate scope =
        (Expression.mk clauses .empty).evaluate scope) ∧
    (∀ conditions length x value scope,
      (OperatorSet.mk conditions length ⟨none, none, some (.single x)⟩).evaluate value scope =
        (OperatorSet.mk conditions length .empty).evaluate value scope) ∧
    ∀ clauses not and x scope, ∀ c ∈ clauses, (c.2.evaluate c.1 scope).outcome ≠ .ok true →
      (Expression.mk clauses ⟨not, and, some (.single x)⟩).evaluate scope =
        (Expression.mk clauses .empty).evaluate scope ∧
      ((Expression.mk clauses ⟨not, and, some (.single x)⟩).evaluate scope).outcome ≠
        .ok true := by
  have hempty : ∀ scope, Combinators.empty.evaluate scope = .verdict true := fun _ => rfl
  refine ⟨?_, ?_, fun e => ⟨?_, ?_⟩, ?_, ?_, ?_⟩
  · intro clauses not and x scope
    rw [Expression.evaluate, Expression.evaluate, Combinators.evaluate_listed]
  · intro conditions length not and x value scope
    rw [OperatorSet.evaluate, OperatorSet.evaluate, Combinators.evaluate_listed]
    rfl
  · exact Expression.noSingleOr_rewrite.1 e
  · exact (Expression.evaluate_rewrite Combinators.evaluate_listOr).1 e
  · intro clauses x scope
    rw [Expression.evaluate, Expression.evaluate, Combinators.evaluate_lone_or, hempty]
  · intro conditions length x value scope
    rw [OperatorSet.evaluate, OperatorSet.evaluate, Combinators.evaluate_lone_or, hempty]
    rfl
  · intro clauses not and x scope c hc hmiss
    have hclauses := Expression.evaluateClauses_no_match hc hmiss
    rw [Expression.evaluate, Expression.evaluate, Evaluation.andThen_of_no_match hclauses,
      Evaluation.andThen_of_no_match hclauses]
    exact ⟨rfl, hclauses⟩

/-- The single expression makes up for the negation, but not for a clause. -/
theorem single_or_listed_null :
    let scope : Scope := ⟨[], 0, ⟨[("id", .null)]⟩⟩
    let cs : Combinators := ⟨some (.single .empty), none,
      some (.single ⟨[("id", .literal .null)], .empty⟩)⟩
    let clause : String × Clause := ("id", .literal (.bool true))
    ((Expression.mk [] cs).evaluate scope).outcome = .ok true ∧
    (clause.2.evaluate clause.1 scope).outcome ≠ .ok true ∧
    ((Expression.mk [clause] cs).evaluate scope).outcome ≠ .ok true ∧
    ((Expression.rewrite .listOr ⟨[], cs⟩).evaluate scope).outcome = .ok true ∧
    ∀ x, (Expression.rewrite .listOr ⟨[], cs⟩).combinators.or ≠ some (.single x) := by
  intro scope cs clause
  obtain ⟨_, _, hrewrite, _, _, hclause⟩ := single_or_listed
  have hmatch : ((Expression.mk [] cs).evaluate scope).outcome = .ok true := by rfl
  have hmiss : (clause.2.evaluate clause.1 scope).outcome ≠ .ok true := nofun
  refine ⟨hmatch, hmiss, ?_, ?_, ?_⟩
  · exact (hclause [clause] _ _ _ scope clause List.mem_cons_self hmiss).2
  · rw [(hrewrite ⟨[], cs⟩).2 scope]
    exact hmatch
  · exact (hrewrite ⟨[], cs⟩).1 _ 0 (.self _)

end RecordFilter
