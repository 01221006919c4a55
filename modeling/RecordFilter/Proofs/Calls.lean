/-
# The calls of an evaluation

An evaluation may stop early, so it calls some of the predicates that occur in an expression and
leaves out others.  What it calls it calls in the order of the occurrences and never twice: the
predicates called are a sublist of the list of occurrences.  The outcome follows from them alone.
If all of them answer there is a verdict; if one fails it is the last one called, and its failure is
the outcome.

`Evaluation.Calls` says this of one evaluation and one list of occurrences.  It is kept by every way
of joining evaluations, the lists being appended in the order in which the parts are evaluated, and
so it passes from the parts of an expression to the whole.
-/
import RecordFilter.Proofs.Occurrences
import RecordFilter.Scan

namespace RecordFilter

/-! ## 1. What the predicates called say about the outcome -/

/-- An outcome that predicates called one after the other in a scope can have: a verdict when all
of them answer, and the failure of the last when all but the last do. -/
inductive Scope.EndsWith (scope : Scope) :
    List (String × Predicate) → Except PredicateFailure Bool → Prop
  | verdict {called : List (String × Predicate)} (answers : scope.AllAnswer called) (b : Bool) :
      EndsWith scope called (.ok b)
  | failure {before : List (String × Predicate)} {o : String × Predicate} {reason : String}
      (answers : scope.AllAnswer before)
      (fails : o.2.call (scope.contextOf o.1) = .error reason) :
      EndsWith scope (before ++ [o]) (.error ⟨o.1, reason⟩)

/-- The evaluation calls some of the predicates, each at most once and in their order, and has an
outcome that follows from them. -/
def Evaluation.Calls (e : Evaluation) (scope : Scope) (predicates : List (String × Predicate)) :
    Prop :=
  ∃ called, called.Sublist predicates ∧ e.calls = called.map (fun o => scope.contextOf o.1) ∧
    scope.EndsWith called e.outcome

section EndsWith

variable {scope : Scope} {called : List (String × Predicate)}
  {outcome : Except PredicateFailure Bool}

theorem Scope.AllAnswer.append {first second : List (String × Predicate)}
    (h : scope.AllAnswer first) (h' : scope.AllAnswer second) :
    scope.AllAnswer (first ++ second) := by
  intro o ho
  rcases List.mem_append.mp ho with ho | ho
  · exact h o ho
  · exact h' o ho

theorem Scope.EndsWith.allAnswer {b : Bool} (h : scope.EndsWith called (.ok b)) :
    scope.AllAnswer called := by
  cases h with
  | verdict answers _ => exact answers

/-- Answers before do not change how the calls end. -/
theorem Scope.EndsWith.after {before : List (String × Predicate)}
    (answers : scope.AllAnswer before) (h : scope.EndsWith called outcome) :
    scope.EndsWith (before ++ called) outcome := by
  cases h with
  | verdict answers' b => exact .verdict (answers.append answers') b
  | failure answers' fails =>
    rw [← List.append_assoc]
    exact .failure (answers.append answers') fails

/-- A predicate that fails is the last one called, and its failure is the outcome. -/
theorem Scope.EndsWith.of_failure (h : scope.EndsWith called outcome)
    {before after : List (String × Predicate)} {o : String × Predicate} {reason : String}
    (hcalled : called = before ++ o :: after)
    (fails : o.2.call (scope.contextOf o.1) = .error reason) :
    after = [] ∧ outcome = .error ⟨o.1, reason⟩ := by
  have noAnswer : ∀ {answered : List (String × Predicate)}, scope.AllAnswer answered →
      o ∉ answered := by
    intro answered answers ho
    obtain ⟨b, hb⟩ := answers o ho
    rw [fails] at hb
    cases hb
  cases h with
  | verdict answers b =>
    exact absurd (by simp [hcalled]) (noAnswer answers)
  | @failure answered last lastReason answers lastFails =>
    -- All but the last answer, so the one that fails is the last.
    rcases List.eq_nil_or_concat after with rfl | ⟨middle, final, rfl⟩
    · obtain ⟨_, hlast⟩ := List.append_inj' hcalled rfl
      obtain rfl : last = o := List.singleton_inj.mp hlast
      rw [lastFails] at fails
      exact ⟨rfl, by rw [Except.error.inj fails]⟩
    · rw [List.concat_eq_append, ← List.cons_append, ← List.append_assoc] at hcalled
      obtain ⟨hanswered, _⟩ := List.append_inj' hcalled rfl
      exact absurd (by simp [hanswered]) (noAnswer answers)

/-- Where no predicate called fails there is a verdict. -/
theorem Scope.EndsWith.of_allAnswer (h : scope.EndsWith called outcome)
    (answers : scope.AllAnswer called) : ∃ b, outcome = .ok b := by
  cases h with
  | verdict _ b => exact ⟨b, rfl⟩
  | @failure before o reason _ fails =>
    obtain ⟨b, hb⟩ := answers o (List.mem_append_right _ (List.mem_singleton_self o))
    rw [fails] at hb
    cases hb

end EndsWith

/-! ## 2. The joins -/

namespace Evaluation.Calls

variable {scope : Scope} {e : Evaluation} {a b : List (String × Predicate)}

theorem mono (h : e.Calls scope a) (sub : a.Sublist b) : e.Calls scope b := by
  obtain ⟨called, hsub, hrest⟩ := h
  exact ⟨called, hsub.trans sub, hrest⟩

theorem ofVerdict (b : Bool) : (verdict b).Calls scope [] :=
  ⟨[], List.Sublist.refl _, rfl, .verdict (fun _ h => by simp at h) b⟩

/-- Events that are no calls may come before. -/
theorem after (h : e.Calls scope a) {events : Journal} (hevents : Journal.calls events = []) :
    (e.after events).Calls scope a := by
  obtain ⟨called, hsub, hcalls, hends⟩ := h
  refine ⟨called, hsub, ?_, hends⟩
  have hafter : (e.after events).calls = Journal.calls events ++ e.calls :=
    Journal.calls_append events e.events
  rw [hafter, hevents, hcalls]
  rfl

/-- What comes after a verdict adds its calls. -/
theorem goOn (h : e.Calls scope a) {v : Bool} (hv : e.outcome = .ok v) {next : Evaluation}
    (hnext : next.Calls scope b) : (next.after e.events).Calls scope (a ++ b) := by
  obtain ⟨called, hsub, hcalls, hends⟩ := h
  obtain ⟨called', hsub', hcalls', hends'⟩ := hnext
  rw [hv] at hends
  refine ⟨called ++ called', hsub.append hsub', ?_, hends'.after hends.allAnswer⟩
  have hafter : (next.after e.events).calls = e.calls ++ next.calls :=
    Journal.calls_append e.events next.events
  rw [hafter, hcalls, hcalls', List.map_append]

theorem andThen (h : e.Calls scope a) {next : Unit → Evaluation}
    (hnext : (next ()).Calls scope b) : (e.andThen next).Calls scope (a ++ b) := by
  unfold Evaluation.andThen
  split
  next hv => exact h.goOn hv hnext
  next => exact h.mono (List.sublist_append_left a b)

theorem orElse (h : e.Calls scope a) {next : Unit → Evaluation}
    (hnext : (next ()).Calls scope b) : (e.orElse next).Calls scope (a ++ b) := by
  unfold Evaluation.orElse
  split
  next hv => exact h.goOn hv hnext
  next => exact h.mono (List.sublist_append_left a b)

theorem negate (h : e.Calls scope a) : e.negate.Calls scope a := by
  obtain ⟨events, outcome⟩ := e
  obtain ⟨called, hsub, hcalls, hends⟩ := h
  refine ⟨called, hsub, hcalls, ?_⟩
  cases hends with
  | verdict answers b => exact .verdict answers _
  | failure answers fails => exact .failure answers fails

section Lists

variable {α : Type} {f : α → Evaluation} {g : α → List (String × Predicate)}

theorem every_map : ∀ {xs : List α}, (∀ x ∈ xs, (f x).Calls scope (g x)) →
    (every (xs.map f)).Calls scope (xs.flatMap g)
  | [], _ => ofVerdict true
  | x :: rest, h => by
    have hrest := every_map fun y hy => h y (List.mem_cons_of_mem _ hy)
    exact (h x List.mem_cons_self).andThen hrest

theorem any_map : ∀ {xs : List α}, (∀ x ∈ xs, (f x).Calls scope (g x)) →
    (any (xs.map f)).Calls scope (xs.flatMap g)
  | [], _ => ofVerdict false
  | x :: rest, h => by
    have hrest := any_map fun y hy => h y (List.mem_cons_of_mem _ hy)
    exact (h x List.mem_cons_self).orElse hrest

end Lists

end Evaluation.Calls

/-! ## 3. One step of the evaluation -/

section Steps

variable {scope : Scope}

theorem Predicate.evaluate_calls (p : Predicate) (name : String) :
    (p.evaluate (scope.contextOf name)).Calls scope [(name, p)] := by
  refine ⟨[(name, p)], List.Sublist.refl _, ?_⟩
  unfold Predicate.evaluate
  split
  next b hb =>
    have answers : scope.AllAnswer [(name, p)] := fun o ho =>
      ⟨b, by obtain rfl := List.mem_singleton.mp ho; exact hb⟩
    exact ⟨rfl, .verdict answers b⟩
  next reason hreason =>
    have hends : scope.EndsWith ([] ++ [(name, p)]) (.error ⟨name, reason⟩) :=
      .failure (fun _ h => by simp at h) hreason
    exact ⟨rfl, hends⟩

theorem Operand.evaluateAll_calls {operand : Operand}
    (h : ∀ e ∈ operand.expressions, (e.evaluate scope).Calls scope e.predicates) :
    (operand.evaluateAll scope).Calls scope operand.predicates := by
  rw [Operand.evaluateAll_eq, Operand.predicates_eq]
  exact .every_map h

theorem Combinators.evaluateNot_calls {operand : Option Operand}
    (h : ∀ e ∈ operand.elim [] Operand.expressions,
      (e.evaluate scope).Calls scope e.predicates) :
    (Combinators.evaluateNot operand scope).Calls scope (Combinators.slotPredicates operand) := by
  cases operand with
  | none =>
    rw [Combinators.evaluateNot, Combinators.slotPredicates]
    exact .ofVerdict true
  | some operand =>
    rw [Combinators.evaluateNot, Combinators.slotPredicates]
    exact (Operand.evaluateAll_calls h).negate

theorem Combinators.evaluateAnd_calls {operand : Option Operand}
    (h : ∀ e ∈ operand.elim [] Operand.expressions,
      (e.evaluate scope).Calls scope e.predicates) :
    (Combinators.evaluateAnd operand scope).Calls scope (Combinators.slotPredicates operand) := by
  cases operand with
  | none =>
    rw [Combinators.evaluateAnd, Combinators.slotPredicates]
    exact .ofVerdict true
  | some operand =>
    rw [Combinators.evaluateAnd, Combinators.slotPredicates]
    exact Operand.evaluateAll_calls h

theorem Combinators.evaluateOr_calls {operand : Option Operand} {before : Evaluation}
    {predicates : List (String × Predicate)} (hbefore : before.Calls scope predicates)
    (h : ∀ e ∈ operand.elim [] Operand.expressions,
      (e.evaluate scope).Calls scope e.predicates) :
    (Combinators.evaluateOr operand before scope).Calls scope
      (predicates ++ Combinators.slotPredicates operand) := by
  match operand with
  | none =>
    rw [Combinators.evaluateOr, Combinators.slotPredicates, List.append_nil]
    exact hbefore
  | some (.single e) =>
    rw [Combinators.evaluateOr, Combinators.slotPredicates, Operand.predicates]
    exact hbefore.orElse (h e (List.mem_singleton_self e))
  | some (.many es) =>
    rw [Combinators.evaluateOr, Combinators.slotPredicates, Operand.evaluateAny_eq,
      Operand.predicates_eq]
    exact hbefore.andThen (.any_map h)

/-- Combinators call the predicates of `$NOT`, then those of `$AND`, then those of `$OR`. -/
theorem Combinators.evaluate_calls {cs : Combinators}
    (h : ∀ e ∈ cs.expressions, (e.evaluate scope).Calls scope e.predicates) :
    (cs.evaluate scope).Calls scope cs.predicates := by
  obtain ⟨not, and, or⟩ := cs
  have hnot := Combinators.evaluateNot_calls fun e he =>
    h e (List.mem_append_left _ (List.mem_append_left _ he))
  have hand := Combinators.evaluateAnd_calls fun e he =>
    h e (List.mem_append_left _ (List.mem_append_right _ he))
  rw [Combinators.evaluate, Combinators.predicates]
  exact Combinators.evaluateOr_calls (hnot.andThen hand)
    fun e he => h e (List.mem_append_right _ he)

theorem OperatorSet.ignoredEvents_calls (configured : List Operator) (category : Category) :
    Journal.calls (OperatorSet.ignoredEvents configured category) = [] := by
  unfold OperatorSet.ignoredEvents
  split <;> rfl

theorem OperatorSet.evaluateLength_calls {length : Option OperatorSet}
    (h : ∀ ops, length = some ops → ∀ value,
      (ops.evaluate value scope).Calls scope ops.predicates) (value : Option Value) :
    (OperatorSet.evaluateLength length value scope).Calls scope
      (OperatorSet.lengthPredicates length) := by
  -- A set that is not asked, because the value is no array, calls nothing.
  have hskip : (Evaluation.verdict true).Calls scope (OperatorSet.lengthPredicates length) :=
    (Evaluation.Calls.ofVerdict true).mono (List.nil_sublist _)
  match length, value with
  | none, _ => rw [OperatorSet.evaluateLength.eq_def]; exact hskip
  | some ops, some (.array items) =>
    rw [OperatorSet.evaluateLength, OperatorSet.lengthPredicates]
    exact h ops rfl _
  | some _, none | some _, some .null | some _, some (.bool _) | some _, some (.number _)
  | some _, some (.timestamp _) | some _, some (.string _) | some _, some (.object _) =>
    exact hskip

/-- An operator set calls the predicates of its length, then those of its combinators. -/
theorem OperatorSet.evaluate_calls {conditions : Conditions} {length : Option OperatorSet}
    {combinators : Combinators}
    (hlength : ∀ ops, length = some ops → ∀ value,
      (ops.evaluate value scope).Calls scope ops.predicates)
    (hcombinators : ∀ e ∈ combinators.expressions, (e.evaluate scope).Calls scope e.predicates)
    (value : Option Value) :
    (OperatorSet.evaluate ⟨conditions, length, combinators⟩ value scope).Calls scope
      (OperatorSet.predicates ⟨conditions, length, combinators⟩) := by
  have hl := OperatorSet.evaluateLength_calls hlength value
  have hc := Combinators.evaluate_calls hcombinators
  rw [OperatorSet.evaluate, OperatorSet.predicates]
  have hconditions : (Evaluation.verdict (conditions.hold value)).Calls scope [] := .ofVerdict _
  exact (hconditions.andThen (hl.andThen hc)).after (OperatorSet.ignoredEvents_calls _ _)

theorem Clause.evaluate_calls {clause : Clause}
    (h : ∀ ops, clause = .operators ops → ∀ value,
      (ops.evaluate value scope).Calls scope ops.predicates) (name : String) :
    (clause.evaluate name scope).Calls scope (clause.predicates name) := by
  cases clause with
  | literal v =>
    rw [Clause.evaluate, Clause.predicates]
    exact .ofVerdict _
  | predicate p =>
    rw [Clause.evaluate, Clause.predicates]
    exact Predicate.evaluate_calls p name
  | operators ops =>
    rw [Clause.evaluate, Clause.predicates]
    exact h ops rfl _

/-! ## 4. The whole evaluation -/

/-- **An evaluation calls the predicates in the order of their occurrences.**  So does that of an
operator set, on any value. -/
theorem Expression.evaluate_calls (scope : Scope) :
    (∀ e : Expression, (e.evaluate scope).Calls scope e.predicates) ∧
    ∀ (ops : OperatorSet) value, (ops.evaluate value scope).Calls scope ops.predicates := by
  refine Expression.induction ?_ ?_
  · intro clauses combinators hops hes
    have hclauses : ∀ c ∈ clauses,
        (c.2.evaluate c.1 scope).Calls scope (c.2.predicates c.1) := by
      rintro ⟨name, clause⟩ hc
      exact Clause.evaluate_calls (fun ops h => hops name ops (h ▸ hc)) name
    rw [Expression.evaluate_eq, Expression.predicates, Expression.clausePredicates_eq]
    exact (Evaluation.Calls.every_map hclauses).andThen (Combinators.evaluate_calls hes)
  · intro conditions length combinators hlength hes value
    exact OperatorSet.evaluate_calls hlength hes value

end Steps

/-- **Which predicates a record's evaluation calls, and how it ends.**  They are some of those that
occur in the expression, in the order in which they occur; each sees its field and the field's value
in the record, with the place of the record.  One that fails is the last, and its failure is the
result; where none fails there is a verdict. -/
theorem Expression.evaluateAt_calls_inOrder (e : Expression) (dataset : List Record) (index : Nat)
    (record : Record) :
    ∃ called : List (String × Predicate), called.Sublist e.predicates ∧
      Journal.calls (e.evaluateAt dataset index record).journal =
        called.map (fun o => { field := o.1, value := record.get? o.1, record, index, dataset }) ∧
      (∀ before o after reason, called = before ++ o :: after →
        o.2.call { field := o.1, value := record.get? o.1, record, index, dataset } =
          .error reason →
        after = [] ∧
          (e.evaluateAt dataset index record).result = .error (.predicateFailed ⟨o.1, reason⟩)) ∧
      ((∀ o ∈ called, ∃ b,
          o.2.call { field := o.1, value := record.get? o.1, record, index, dataset } = .ok b) →
        ∃ b, (e.evaluateAt dataset index record).result = .ok b) := by
  obtain ⟨called, hsub, hcalls, hends⟩ :=
    (Expression.evaluate_calls ⟨dataset, index, record⟩).1 e
  refine ⟨called, hsub, hcalls, fun before o after reason hcalled fails => ?_, fun answers => ?_⟩
  · obtain ⟨hafter, houtcome⟩ := hends.of_failure hcalled fails
    exact ⟨hafter, congrArg (Except.mapError Error.predicateFailed) houtcome⟩
  · obtain ⟨b, houtcome⟩ := hends.of_allAnswer answers
    exact ⟨b, congrArg (Except.mapError Error.predicateFailed) houtcome⟩

end RecordFilter
