/-
# What is on record of an evaluation

Three kinds of event come from an evaluation: calls of predicates, notes about ignored operators,
and failures of predicates.  The first two are quiet, no log at debug level shows them.  A failure
is put on record where it happens, and since it ends the evaluation, nothing comes after it and
there is no other.  So the record is a row of quiet events and, where a predicate fails, its failure
(`Expression.evaluate_tells`).

The proof goes through an evaluation step by step.  What each step keeps, whatever the parts are
(`Evaluation.Kept`), holds of all evaluations (`Evaluation.Kept.keeps`), and the shape of the record
is of this kind.

A walk over a dataset evaluates records until one ends it.  The records that it passes add quiet
events only, so its record has the same shape, and a failure in it is that of the record where it
ends (`Expression.firstFrom_framed_of_stopsAt`, `Expression.matchesFrom_framed_of_failure`).
-/
import RecordFilter.Proofs.Joins
import RecordFilter.Proofs.Scans

namespace RecordFilter

/-! ## 1. What every step keeps -/

/-- Every way to put an evaluation together in a scope keeps a property. -/
structure Evaluation.Kept (scope : Scope) (P : Evaluation → Prop) : Prop where
  verdict : ∀ b, P (verdict b)
  predicate : ∀ (p : Predicate) name, P (p.evaluate (scope.context name (scope.record.get? name)))
  ignored : ∀ {e : Evaluation}, P e → ∀ configured category,
    P (e.after (OperatorSet.ignoredEvents configured category))
  negate : ∀ {e : Evaluation}, P e → P e.negate
  andThen : ∀ {first : Evaluation} {next : Unit → Evaluation},
    P first → P (next ()) → P (first.andThen next)
  orElse : ∀ {first : Evaluation} {next : Unit → Evaluation},
    P first → P (next ()) → P (first.orElse next)

namespace Evaluation.Kept

section Steps

variable {scope : Scope} {P : Evaluation → Prop} (h : Kept scope P)

include h

theorem every_map {α : Type} {f : α → Evaluation} : ∀ {xs : List α}, (∀ x ∈ xs, P (f x)) →
    P (every (xs.map f))
  | [], _ => h.verdict true
  | x :: rest, hxs => by
    obtain ⟨hx, hrest⟩ := List.forall_mem_cons.mp hxs
    exact h.andThen hx (every_map hrest)

theorem any_map {α : Type} {f : α → Evaluation} : ∀ {xs : List α}, (∀ x ∈ xs, P (f x)) →
    P (any (xs.map f))
  | [], _ => h.verdict false
  | x :: rest, hxs => by
    obtain ⟨hx, hrest⟩ := List.forall_mem_cons.mp hxs
    exact h.orElse hx (any_map hrest)

theorem operand {operand : Operand} (hes : ∀ e ∈ operand.expressions, P (e.evaluate scope)) :
    P (operand.evaluateAll scope) := by
  rw [Operand.evaluateAll_eq]
  exact h.every_map hes

theorem combinators {cs : Combinators} (hes : ∀ e ∈ cs.expressions, P (e.evaluate scope)) :
    P (cs.evaluate scope) := by
  obtain ⟨not, and, or⟩ := cs
  rw [Combinators.expressions, List.forall_mem_append, List.forall_mem_append] at hes
  obtain ⟨⟨hnot, hand⟩, hor⟩ := hes
  have hnegation : P (Combinators.evaluateNot not scope) := by
    cases not with
    | none => rw [Combinators.evaluateNot]; exact h.verdict true
    | some operand => rw [Combinators.evaluateNot]; exact h.negate (h.operand hnot)
  have hconjunction : P (Combinators.evaluateAnd and scope) := by
    cases and with
    | none => rw [Combinators.evaluateAnd]; exact h.verdict true
    | some operand => rw [Combinators.evaluateAnd]; exact h.operand hand
  have hbefore : P ((Combinators.evaluateNot not scope).andThen
      fun _ => Combinators.evaluateAnd and scope) := h.andThen hnegation hconjunction
  rw [Combinators.evaluate]
  cases or with
  | none =>
    rw [Combinators.evaluateOr]
    exact hbefore
  | some operand =>
    cases operand with
    | single e =>
      rw [Combinators.evaluateOr]
      exact h.orElse hbefore (hor e (List.mem_singleton_self e))
    | many es =>
      rw [Combinators.evaluateOr, Operand.evaluateAny_eq]
      exact h.andThen hbefore (h.any_map hor)

theorem length {length : Option OperatorSet}
    (hset : ∀ ops, length = some ops → ∀ value, P (ops.evaluate value scope))
    (value : Option Value) : P (OperatorSet.evaluateLength length value scope) := by
  match length, value with
  | none, _ =>
    rw [OperatorSet.evaluateLength.eq_def]
    exact h.verdict true
  | some ops, some (.array items) =>
    rw [OperatorSet.evaluateLength]
    exact hset ops rfl _
  | some _, none | some _, some .null | some _, some (.bool _) | some _, some (.number _)
  | some _, some (.timestamp _) | some _, some (.string _) | some _, some (.object _) =>
    exact h.verdict true

theorem clause {clause : Clause}
    (hops : ∀ ops, clause = .operators ops → ∀ value, P (ops.evaluate value scope))
    (name : String) : P (clause.evaluate name scope) := by
  cases clause with
  | literal v => rw [Clause.evaluate]; exact h.verdict _
  | predicate p => rw [Clause.evaluate]; exact h.predicate p name
  | operators ops => rw [Clause.evaluate]; exact hops ops rfl _

/-- **What every step keeps holds of every evaluation**, of expressions and of operator sets. -/
theorem keeps : (∀ e : Expression, P (e.evaluate scope)) ∧
    ∀ (ops : OperatorSet) value, P (ops.evaluate value scope) := by
  refine Expression.induction ?_ ?_
  · intro clauses combinators hops hes
    rw [Expression.evaluate_eq]
    refine h.andThen (h.every_map ?_) (h.combinators hes)
    rintro ⟨name, clause⟩ hc
    exact h.clause (fun ops hclause => hops name ops (hclause ▸ hc)) name
  · intro conditions length combinators hlength hes value
    rw [OperatorSet.evaluate]
    exact h.ignored (h.andThen (h.verdict _)
      (h.andThen (h.length hlength value) (h.combinators hes))) _ _

end Steps

end Evaluation.Kept

/-! ## 2. The record of an evaluation -/

/-- Calls and ignored operators are quiet. -/
def Event.isQuiet : Event → Bool
  | .called _ | .ignored _ _ => true
  | .predicateFailed _ _ | .rejected _ | .started _ _ _ | .finished _ _ => false

namespace Journal

/-- The journal has quiet events between those of an opening and those of a closing. -/
def Framed (journal opening closing : Journal) : Prop :=
  ∃ quiet : Journal, (∀ event ∈ quiet, event.isQuiet = true) ∧ journal = opening ++ quiet ++ closing

variable {first second opening closing : Journal}

theorem framed_of_quiet (h : ∀ event ∈ first, event.isQuiet = true) : first.Framed [] [] :=
  ⟨first, h, by simp⟩

theorem framed_opening (opening : Journal) : opening.Framed opening [] :=
  ⟨[], by simp, by simp⟩

theorem framed_closing (closing : Journal) : closing.Framed [] closing :=
  ⟨[], by simp, by simp⟩

theorem Framed.append (h : first.Framed opening []) (h' : second.Framed [] closing) :
    Journal.Framed (first ++ second) opening closing := by
  obtain ⟨quiet, hquiet, rfl⟩ := h
  obtain ⟨quiet', hquiet', rfl⟩ := h'
  exact ⟨quiet ++ quiet', List.forall_mem_append.mpr ⟨hquiet, hquiet'⟩, by simp⟩

/-- What a result leaves on record at the end: the failure of a predicate at an index, if it is one,
and else nothing. -/
def failureAt {α : Type} (index : Nat) : Except Error α → Journal
  | .error (.predicateFailed failure) => [.predicateFailed failure index]
  | _ => []

end Journal

namespace Evaluation

/-- Quiet events are on record, and at the end the failure if there is one. -/
def Tells (index : Nat) (e : Evaluation) : Prop :=
  e.events.Framed [] (Journal.failureAt index e.result)

namespace Tells

variable {index : Nat} {e : Evaluation}

/-- What has a verdict has put quiet events on record, so that others can follow. -/
theorem after (h : e.Tells index) {b : Bool} (hb : e.outcome = .ok b) {next : Evaluation}
    (hnext : next.Tells index) : (next.after e.events).Tells index := by
  unfold Tells at h
  rw [result_ok_iff.mpr hb] at h
  exact h.append hnext

theorem ignoredEvents_quiet (configured : List Operator) (category : Category) :
    ∀ event ∈ OperatorSet.ignoredEvents configured category, event.isQuiet = true := by
  unfold OperatorSet.ignoredEvents
  split <;> simp [Event.isQuiet]

theorem predicate (p : Predicate) (context : FieldContext) :
    (p.evaluate context).Tells context.index := by
  unfold Predicate.evaluate
  split
  · exact Journal.framed_of_quiet (by simp [Event.isQuiet])
  · exact ⟨[.called context], by simp [Event.isQuiet], rfl⟩

theorem kept (scope : Scope) : Kept scope (Tells scope.index) where
  verdict _ := Journal.framed_of_quiet (by simp [Evaluation.verdict])
  predicate p _ := predicate p _
  ignored h configured category :=
    (Journal.framed_of_quiet (ignoredEvents_quiet configured category)).append h
  negate {e} h := by
    obtain ⟨events, outcome⟩ := e
    cases outcome <;> exact h
  andThen h hnext := by
    unfold Evaluation.andThen
    split
    next hb => exact h.after hb hnext
    next => exact h
  orElse h hnext := by
    unfold Evaluation.orElse
    split
    next hb => exact h.after hb hnext
    next => exact h

end Tells

end Evaluation

/-- **An evaluation puts quiet events on record, and at the end its failure if there is one.** -/
theorem Expression.evaluate_tells (e : Expression) (scope : Scope) :
    (e.evaluate scope).Tells scope.index :=
  (Evaluation.Tells.kept scope).keeps.1 e

/-! ## 3. The record of a walk -/

section Reports

variable {α β : Type} {report : Report α} {opening closing : Journal}

theorem Report.bind_framed (h : report.journal.Framed opening []) {a : α}
    (ha : report.result = .ok a) {next : α → Report β}
    (hnext : (next a).journal.Framed [] closing) :
    (report.bind next).journal.Framed opening closing := by
  obtain ⟨journal, _⟩ := report
  obtain rfl := ha
  exact h.append hnext

theorem Report.bind_framed_of_error (h : report.journal.Framed opening closing) {error : Error}
    (herror : report.result = .error error) (next : α → Report β) :
    (report.bind next).journal.Framed opening closing := by
  obtain ⟨journal, _⟩ := report
  obtain rfl := herror
  exact h

end Reports

namespace Expression

variable {e : Expression} {dataset : List Record} {verdict : Bool} {k : Nat} {closing : Journal}

theorem evaluateAt_framed (hk : k < dataset.length) :
    (e.evaluateAt dataset k dataset[k]).journal.Framed []
      (Journal.failureAt k (e.resultAt dataset k)) := by
  rw [resultAt, List.getElem?_eq_getElem hk]
  exact e.evaluate_tells ⟨dataset, k, dataset[k]⟩

/-- A record with a verdict is passed quietly, whatever comes next. -/
theorem evaluateAt_bind_framed {β : Type} (hk : k < dataset.length) {b : Bool}
    (h : e.resultAt dataset k = .ok b) {next : Bool → Report β}
    (hnext : (next b).journal.Framed [] closing) :
    ((e.evaluateAt dataset k dataset[k]).bind next).journal.Framed [] closing := by
  have hat := evaluateAt_framed (e := e) hk
  rw [h] at hat
  exact Report.bind_framed hat ((evaluateAt_ends hk).1.trans h) hnext

/-- The walk to the first verdict is on record as the walk from where it has got to. -/
theorem firstFrom_framed_of_drop : ∀ {k : Nat}, k ≤ dataset.length →
    (∀ i < k, ¬ Stops verdict (e.resultAt dataset i)) →
    (e.firstFrom dataset verdict (dataset.drop k) k).journal.Framed [] closing →
    (e.firstFrom dataset verdict dataset 0).journal.Framed [] closing
  | 0, _, _, h => h
  | k + 1, hk, hpass, h => by
    have hlt : k < dataset.length := by omega
    have hstep : (e.firstFrom dataset verdict (dataset.drop k) k).journal.Framed [] closing := by
      rw [List.drop_eq_getElem_cons hlt, firstFrom]
      refine evaluateAt_bind_framed hlt (not_stops_iff.mp (hpass k (by omega))) ?_
      rw [if_neg (by cases verdict <;> decide)]
      exact h
    exact firstFrom_framed_of_drop (by omega) (fun i hi => hpass i (by omega)) hstep

theorem firstFrom_framed_of_stopsAt (h : e.StopsAt dataset verdict k) :
    (e.firstFrom dataset verdict dataset 0).journal.Framed []
      (Journal.failureAt k (e.resultAt dataset k)) := by
  obtain ⟨hk, hstop, hbelow⟩ := h
  refine firstFrom_framed_of_drop (by omega) hbelow ?_
  rw [List.drop_eq_getElem_cons hk, firstFrom]
  cases hr : e.resultAt dataset k with
  | error error =>
    rw [← hr]
    exact Report.bind_framed_of_error (evaluateAt_framed hk) ((evaluateAt_ends hk).1.trans hr) _
  | ok b =>
    rw [hr] at hstop
    obtain rfl : b = verdict := hstop
    refine evaluateAt_bind_framed hk hr ?_
    rw [if_pos (beq_self_eq_true b)]
    exact Journal.framed_of_quiet (by simp)

theorem firstFrom_framed_of_never
    (h : ∀ i < dataset.length, ¬ Stops verdict (e.resultAt dataset i)) :
    (e.firstFrom dataset verdict dataset 0).journal.Framed [] [] := by
  refine firstFrom_framed_of_drop (Nat.le_refl _) h ?_
  rw [List.drop_length, firstFrom]
  exact Journal.framed_of_quiet (by simp)

/-- The walk that collects is on record as the walk from where it has got to. -/
theorem matchesFrom_framed_of_drop : ∀ {k : Nat}, k ≤ dataset.length →
    (∀ i < k, ∃ isMatch, e.resultAt dataset i = .ok isMatch) →
    (e.matchesFrom dataset (dataset.drop k) k).journal.Framed [] closing →
    (e.matchesFrom dataset dataset 0).journal.Framed [] closing
  | 0, _, _, h => h
  | k + 1, hk, hpass, h => by
    have hlt : k < dataset.length := by omega
    obtain ⟨isMatch, hr⟩ := hpass k (by omega)
    have hstep : (e.matchesFrom dataset (dataset.drop k) k).journal.Framed [] closing := by
      rw [List.drop_eq_getElem_cons hlt, matchesFrom]
      exact evaluateAt_bind_framed hlt hr h
    exact matchesFrom_framed_of_drop (by omega) (fun i hi => hpass i (by omega)) hstep

theorem matchesFrom_framed_of_failure {error : Error} (h : e.resultAt dataset k = .error error)
    (hbelow : ∀ i < k, ∃ isMatch, e.resultAt dataset i = .ok isMatch) :
    (e.matchesFrom dataset dataset 0).journal.Framed []
      (Journal.failureAt k (e.resultAt dataset k)) := by
  have hk := lt_length_of_error h
  refine matchesFrom_framed_of_drop (by omega) hbelow ?_
  rw [List.drop_eq_getElem_cons hk, matchesFrom]
  exact Report.bind_framed_of_error (evaluateAt_framed hk) ((evaluateAt_ends hk).1.trans h) _

theorem matchesFrom_framed_of_no_failure
    (h : ∀ i < dataset.length, ∃ isMatch, e.resultAt dataset i = .ok isMatch) :
    (e.matchesFrom dataset dataset 0).journal.Framed [] [] := by
  refine matchesFrom_framed_of_drop (Nat.le_refl _) h ?_
  rw [List.drop_length, matchesFrom]
  exact Journal.framed_of_quiet (by simp)

end Expression

end RecordFilter
