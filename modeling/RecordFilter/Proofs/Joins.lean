/-
# Evaluations joined in a list

Clauses, the expressions of an operand and the members of a list are all joined in one of two ways:
each must match, and the first that does not decides (`Evaluation.every`), or one must match, and
the first that does decides (`Evaluation.any`).  This module reads the recursions of the evaluation
as these two joins over a list, so that what holds of a join is proved once.

What relates evaluations to truth values and is preserved by joining goes from the parts to the
whole (`Evaluation.Reading`).  Two relations are of this kind: the evaluation has the truth value
for its verdict (`reading_outcome`), and it has no other verdict, if it has one at all
(`reading_settled`).  The first says that stopping early loses nothing where every part has a
verdict; the second also speaks of evaluations in which predicates fail.  Outcomes, failures
included, are settled by the outcomes of the parts (`every_map_outcome_congr`,
`any_map_outcome_congr`).

Some laws of truth values are laws of evaluations too, events included, because both sides ask the
same parts in the same order: a join is associative, and negation turns one join into the other
(`negate_every`, `negate_any`).
-/
import RecordFilter.Evaluation
import RecordFilter.Proofs.Induction

namespace RecordFilter

namespace Evaluation

/-! ## 1. Outcomes of the elementary joins -/

@[simp] theorem after_outcome (e : Evaluation) (events : Journal) :
    (e.after events).outcome = e.outcome := rfl

theorem andThen_outcome_congr {first first' : Evaluation} {next next' : Unit → Evaluation}
    (hfirst : first.outcome = first'.outcome)
    (hnext : (next ()).outcome = (next' ()).outcome) :
    (first.andThen next).outcome = (first'.andThen next').outcome := by
  unfold andThen
  rw [hfirst]
  split
  next => exact hnext
  next => exact hfirst

theorem orElse_outcome_congr {first first' : Evaluation} {next next' : Unit → Evaluation}
    (hfirst : first.outcome = first'.outcome)
    (hnext : (next ()).outcome = (next' ()).outcome) :
    (first.orElse next).outcome = (first'.orElse next').outcome := by
  unfold orElse
  rw [hfirst]
  split
  next => exact hnext
  next => exact hfirst

theorem negate_outcome_congr {e e' : Evaluation} (h : e.outcome = e'.outcome) :
    e.negate.outcome = e'.negate.outcome :=
  congrArg (Except.map (!·)) h

/-- A match that goes on to a match without events is the match itself. -/
theorem andThen_verdict_true (e : Evaluation) : (e.andThen fun _ => verdict true) = e := by
  obtain ⟨events, outcome⟩ := e
  match outcome with
  | .ok true => simp [verdict, after]
  | .ok false => rfl
  | .error _ => rfl

/-- A miss that goes on to a miss without events is the miss itself. -/
theorem orElse_verdict_false (e : Evaluation) : (e.orElse fun _ => verdict false) = e := by
  obtain ⟨events, outcome⟩ := e
  match outcome with
  | .ok false => simp [verdict, after]
  | .ok true => rfl
  | .error _ => rfl

/-- What is no match does not go on. -/
theorem andThen_of_no_match {first : Evaluation} (h : first.outcome ≠ .ok true)
    (next : Unit → Evaluation) : first.andThen next = first := by
  obtain ⟨events, outcome⟩ := first
  match outcome with
  | .ok true => exact absurd rfl h
  | .ok false => rfl
  | .error _ => rfl

theorem after_after (e : Evaluation) (events events' : Journal) :
    (e.after events).after events' = e.after (events' ++ events) := by
  simp [after]

theorem andThen_assoc (first : Evaluation) (next next' : Unit → Evaluation) :
    (first.andThen next).andThen next' = first.andThen fun _ => (next ()).andThen next' := by
  obtain ⟨events, outcome⟩ := first
  match outcome with
  | .ok false => rfl
  | .error _ => rfl
  | .ok true =>
    simp only [match_andThen]
    generalize next () = second
    obtain ⟨events', outcome'⟩ := second
    match outcome' with
    | .ok false => rfl
    | .error _ => rfl
    | .ok true => exact (after_after (next' ()) events' events).symm

@[simp] theorem negate_negate (e : Evaluation) : e.negate.negate = e := by
  obtain ⟨events, error | _ | _⟩ := e <;> rfl

theorem negate_andThen (first : Evaluation) (next : Unit → Evaluation) :
    (first.andThen next).negate = first.negate.orElse fun _ => (next ()).negate := by
  obtain ⟨events, error | _ | _⟩ := first <;> rfl

theorem negate_orElse (first : Evaluation) (next : Unit → Evaluation) :
    (first.orElse next).negate = first.negate.andThen fun _ => (next ()).negate := by
  obtain ⟨events, error | _ | _⟩ := first <;> rfl

/-! ## 2. The two joins of a list -/

/-- All must match; the first that does not decides. -/
def every : List Evaluation → Evaluation
  | [] => verdict true
  | e :: rest => e.andThen fun _ => every rest

/-- One must match; the first that does decides. -/
def any : List Evaluation → Evaluation
  | [] => verdict false
  | e :: rest => e.orElse fun _ => any rest

@[simp] theorem every_singleton (e : Evaluation) : every [e] = e := andThen_verdict_true e

theorem every_append : ∀ as bs : List Evaluation,
    every (as ++ bs) = (every as).andThen fun _ => every bs
  | [], _ => rfl
  | a :: as, bs => by
    rw [List.cons_append, every, every, andThen_assoc, every_append as bs]

/-- Where one is no match, not all match. -/
theorem every_no_match {e : Evaluation} (h : e.outcome ≠ .ok true) : ∀ {es : List Evaluation},
    e ∈ es → (every es).outcome ≠ .ok true
  | first :: rest, hmem => by
    by_cases hfirst : first.outcome = .ok true
    · have hmem' : e ∈ rest := (List.mem_cons.mp hmem).resolve_left fun heq => h (heq ▸ hfirst)
      have hrest := every_no_match h hmem'
      obtain ⟨events, _⟩ := first
      obtain rfl := hfirst
      exact hrest
    · rw [every, andThen_of_no_match hfirst]
      exact hfirst

/-- Verdicts without events are joined like truth values. -/
theorem every_map_verdict {α : Type} (f : α → Bool) : ∀ xs : List α,
    every (xs.map fun x => verdict (f x)) = verdict (xs.all f)
  | [] => rfl
  | x :: rest => by
    rw [List.map_cons, every, every_map_verdict f rest, List.all_cons]
    cases f x <;> rfl

/-- Not all match where one does not; the member that decides is the same. -/
theorem negate_every : ∀ es : List Evaluation, (every es).negate = any (es.map negate)
  | [] => rfl
  | e :: rest => by
    rw [every, negate_andThen, negate_every rest]
    rfl

/-- None matches where each does not; the member that decides is the same. -/
theorem negate_any : ∀ es : List Evaluation, (any es).negate = every (es.map negate)
  | [] => rfl
  | e :: rest => by
    rw [any, negate_orElse, negate_any rest]
    rfl

section Congruence

variable {α : Type} {f f' : α → Evaluation}

theorem every_map_outcome_congr : ∀ {xs : List α}, (∀ x ∈ xs, (f x).outcome = (f' x).outcome) →
    (every (xs.map f)).outcome = (every (xs.map f')).outcome
  | [], _ => rfl
  | x :: rest, h => by
    have hrest := every_map_outcome_congr fun y hy => h y (List.mem_cons_of_mem _ hy)
    exact andThen_outcome_congr (h x List.mem_cons_self) hrest

theorem any_map_outcome_congr : ∀ {xs : List α}, (∀ x ∈ xs, (f x).outcome = (f' x).outcome) →
    (any (xs.map f)).outcome = (any (xs.map f')).outcome
  | [], _ => rfl
  | x :: rest, h => by
    have hrest := any_map_outcome_congr fun y hy => h y (List.mem_cons_of_mem _ hy)
    exact orElse_outcome_congr (h x List.mem_cons_self) hrest

end Congruence

/-! ## 3. Truth values of evaluations -/

/-- A way to read evaluations as truth values that joining preserves: what it says of the parts and
their values it says of the whole and the value put together from these. -/
structure Reading (R : Evaluation → Bool → Prop) : Prop where
  verdict : ∀ b, R (verdict b) b
  after : ∀ {e : Evaluation} {a : Bool}, R e a → ∀ events, R (e.after events) a
  negate : ∀ {e : Evaluation} {a : Bool}, R e a → R e.negate !a
  andThen : ∀ {first : Evaluation} {next : Unit → Evaluation} {a b : Bool},
    R first a → R (next ()) b → R (first.andThen next) (a && b)
  orElse : ∀ {first : Evaluation} {next : Unit → Evaluation} {a b : Bool},
    R first a → R (next ()) b → R (first.orElse next) (a || b)

/-- The verdict, if there is one, is the truth value. -/
def Settled (e : Evaluation) (b : Bool) : Prop := ∀ v, e.outcome = .ok v → v = b

/-- Parts that have verdicts make a whole that has one. -/
theorem reading_outcome : Reading fun e b => e.outcome = .ok b where
  verdict _ := rfl
  after h _ := h
  negate h := by simp [negate, h, Except.map]
  andThen {_ _ a _} ha hb := by cases a <;> simp [andThen, ha, hb]
  orElse {_ _ a _} ha hb := by cases a <;> simp [orElse, ha, hb]

/-- A whole with a verdict has asked only parts with verdicts, and the others do not matter. -/
theorem reading_settled : Reading Settled where
  verdict b v hv := (Except.ok.inj hv).symm
  after h _ := h
  negate {e a} h v hv := by
    cases houtcome : e.outcome with
    | error failure => simp [Evaluation.negate, houtcome, Except.map] at hv
    | ok w =>
      obtain rfl := h w houtcome
      simpa [Evaluation.negate, houtcome, Except.map, eq_comm] using hv
  andThen {first next a b} ha hb v hv := by
    cases houtcome : first.outcome with
    | error failure => simp [Evaluation.andThen, houtcome] at hv
    | ok w =>
      obtain rfl := ha w houtcome
      cases w with
      | true => exact hb v (by simpa [Evaluation.andThen, houtcome] using hv)
      | false => simpa [Evaluation.andThen, houtcome, eq_comm] using hv
  orElse {first next a b} ha hb v hv := by
    cases houtcome : first.outcome with
    | error failure => simp [Evaluation.orElse, houtcome] at hv
    | ok w =>
      obtain rfl := ha w houtcome
      cases w with
      | true => simpa [Evaluation.orElse, houtcome, eq_comm] using hv
      | false => exact hb v (by simpa [Evaluation.orElse, houtcome] using hv)

section Lists

variable {R : Evaluation → Bool → Prop} {α : Type} {f : α → Evaluation} {g : α → Bool}

/-- **Where every part is read, their conjunction is.** -/
theorem Reading.every_map (hR : Reading R) : ∀ {xs : List α}, (∀ x ∈ xs, R (f x) (g x)) →
    R (every (xs.map f)) (xs.all g)
  | [], _ => hR.verdict true
  | x :: rest, h => by
    have hrest := hR.every_map fun y hy => h y (List.mem_cons_of_mem _ hy)
    exact hR.andThen (h x List.mem_cons_self) hrest

/-- **Where every part is read, their disjunction is.** -/
theorem Reading.any_map (hR : Reading R) : ∀ {xs : List α}, (∀ x ∈ xs, R (f x) (g x)) →
    R (any (xs.map f)) (xs.any g)
  | [], _ => hR.verdict false
  | x :: rest, h => by
    have hrest := hR.any_map fun y hy => h y (List.mem_cons_of_mem _ hy)
    exact hR.orElse (h x List.mem_cons_self) hrest

end Lists

end Evaluation

/-! ## 4. The recursions as joins -/

theorem Expression.evaluateClauses_eq (scope : Scope) : ∀ clauses : List (String × Clause),
    Expression.evaluateClauses clauses scope =
      .every (clauses.map fun c => c.2.evaluate c.1 scope)
  | [] => by rw [Expression.evaluateClauses]; rfl
  | (name, clause) :: rest => by
    rw [Expression.evaluateClauses, Expression.evaluateClauses_eq scope rest]
    rfl

theorem Operand.evaluateEvery_eq (scope : Scope) : ∀ es : List Expression,
    Operand.evaluateEvery es scope = .every (es.map (·.evaluate scope))
  | [] => by rw [Operand.evaluateEvery]; rfl
  | e :: rest => by
    rw [Operand.evaluateEvery, Operand.evaluateEvery_eq scope rest]
    rfl

theorem Operand.evaluateAny_eq (scope : Scope) : ∀ es : List Expression,
    Operand.evaluateAny es scope = .any (es.map (·.evaluate scope))
  | [] => by rw [Operand.evaluateAny]; rfl
  | e :: rest => by
    rw [Operand.evaluateAny, Operand.evaluateAny_eq scope rest]
    rfl

/-- A single expression is joined like a list of one. -/
theorem Operand.evaluateAll_eq (operand : Operand) (scope : Scope) :
    operand.evaluateAll scope = .every (operand.expressions.map (·.evaluate scope)) := by
  cases operand with
  | single e => simp [Operand.evaluateAll, Operand.expressions]
  | many es => rw [Operand.evaluateAll, Operand.evaluateEvery_eq]; rfl

theorem Expression.evaluate_eq (e : Expression) (scope : Scope) :
    e.evaluate scope =
      (Evaluation.every (e.clauses.map fun c => c.2.evaluate c.1 scope)).andThen
        fun _ => e.combinators.evaluate scope := by
  obtain ⟨clauses, combinators⟩ := e
  rw [Expression.evaluate, Expression.evaluateClauses_eq]

/-! ## 5. Expressions of one operand -/

namespace Expression

/-- The expression that has one operand and asks nothing else. -/
def under (c : Combinator) (operand : Operand) : Expression := empty.combine c operand

theorem evaluate_under (c : Combinator) (operand : Operand) (scope : Scope) :
    (under c operand).evaluate scope = (Combinators.empty.set c operand).evaluate scope := by
  rw [Expression.evaluate_eq]
  rfl

theorem evaluate_under_not (operand : Operand) (scope : Scope) :
    (under .not operand).evaluate scope =
      (Evaluation.every (operand.expressions.map (·.evaluate scope))).negate := by
  rw [evaluate_under, Combinators.set, Combinators.empty, Combinators.evaluate,
    Combinators.evaluateOr, Combinators.evaluateNot, Combinators.evaluateAnd,
    Evaluation.andThen_verdict_true, Operand.evaluateAll_eq]

theorem evaluate_under_and (operand : Operand) (scope : Scope) :
    (under .and operand).evaluate scope =
      .every (operand.expressions.map (·.evaluate scope)) := by
  rw [evaluate_under, Combinators.set, Combinators.empty, Combinators.evaluate,
    Combinators.evaluateOr, Combinators.evaluateNot, Combinators.evaluateAnd,
    Operand.evaluateAll_eq]
  rfl

theorem evaluate_under_or (es : List Expression) (scope : Scope) :
    (under .or (.many es)).evaluate scope = .any (es.map (·.evaluate scope)) := by
  rw [evaluate_under, Combinators.set, Combinators.empty, Combinators.evaluate,
    Combinators.evaluateOr, Combinators.evaluateNot, Combinators.evaluateAnd,
    Operand.evaluateAny_eq]
  rfl

end Expression

end RecordFilter
