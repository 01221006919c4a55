/-
# An operator set by its single operators

The operators of a set are asked together, by an evaluation that depends on the value: on a string
the equalities are asked of folded texts, on an array the set of the length is evaluated, and some
operators are ignored.  All the same a set is the conjunction of its operators.  Each makes a set
of its own with the flag that ignores case (`OperatorSet.only`); these sets one after the other in
the order of all operators, and then the combinators, end like the whole set after the same calls.

Only the length can call a predicate, and it is the last of the operators: so it does not matter
that the conditions before it are joined by a truth value and not by one evaluation after the other.
-/
import RecordFilter.Proofs.InForce

namespace RecordFilter

namespace OperatorSet

section Single

variable (ops : OperatorSet) (op : Operator) (value : Option Value) (scope : Scope)

/-! ## 1. Sets of one operator -/

/-- The set with one operator of a set, and the flag that ignores case. -/
def only : OperatorSet :=
  ops.restrict fun slot => slot = .operator op ∨ slot = .operator .caseInsensitive

theorem only_combinators : (ops.only op).combinators = .empty := by
  refine Combinators.ext_get? fun c => ?_
  rw [only, get?_restrict_combinators]
  cases c <;> rfl

theorem only_length : (ops.only op).length = if op = .length then ops.length else none := by
  rw [only, restrict_length]
  simp [eq_comm]

/-- One operator holds unless it is set, applies and is not met. -/
theorem only_hold_iff : (ops.only op).conditions.hold value = true ↔
    (ops.sets op = true → op.appliesTo (Category.of value) = true →
      ops.conditions.met value true op = true) := by
  have hflag : ops.conditions.met value true .caseInsensitive = true := rfl
  rw [only, hold_restrict_iff (.inl (by simp))]
  simp only [decide_eq_true_eq, Slot.operator.injEq]
  constructor
  · exact fun h => h op (.inl rfl)
  · rintro h op' (rfl | rfl)
    · exact h
    · exact fun _ _ => hflag

/-- A set of one operator has no combinators to go on to. -/
theorem untraced_only : ((ops.only op).evaluate value scope).untraced =
    (Evaluation.verdict ((ops.only op).conditions.hold value)).andThen fun _ =>
      (evaluateLength (if op = .length then ops.length else none) value scope).untraced := by
  have hempty : Combinators.empty.evaluate scope = .verdict true := rfl
  rw [evaluate_eq, only_combinators, only_length, hempty, Evaluation.untraced_after,
    untraced_ignoredEvents, Evaluation.after_nil, Evaluation.andThen_verdict_true,
    Evaluation.untraced_andThen, Evaluation.untraced_verdict]

theorem untraced_only_condition (h : op ≠ .length) :
    ((ops.only op).evaluate value scope).untraced =
      .verdict ((ops.only op).conditions.hold value) := by
  have hnone : evaluateLength none value scope = .verdict true := by rw [evaluateLength.eq_def]
  rw [untraced_only, if_neg h, hnone]
  exact Evaluation.andThen_verdict_true _

theorem untraced_only_length : ((ops.only .length).evaluate value scope).untraced =
    (evaluateLength ops.length value scope).untraced := by
  have hhold : (ops.only .length).conditions.hold value = true :=
    (only_hold_iff ops .length value).mpr fun _ _ => rfl
  rw [untraced_only, hhold]
  rfl

/-! ## 2. The operators one after the other -/

/-- Does an operator make a set of its own?  The flag stands in all of these sets. -/
def isSingle : Bool := op ∈ ops.configured ∧ op ≠ .caseInsensitive

theorem isSingle_iff : ops.isSingle op = true ↔ ops.sets op = true ∧ op ≠ .caseInsensitive := by
  rw [isSingle, decide_eq_true_iff, mem_configured_iff]

theorem isSingle_length : ops.isSingle .length = ops.length.isSome := by
  rw [Bool.eq_iff_iff, isSingle_iff, sets, get?, Option.isSome_map]
  exact and_iff_left (by decide)

/-- The length is the last of the operators. -/
theorem filter_isSingle : Operator.all.filter ops.isSingle =
    Operator.all.dropLast.filter ops.isSingle ++ [.length].filter ops.isSingle := by
  rw [← List.filter_append]
  rfl

/-- Conditions one after the other are joined by their truth values. -/
theorem untraced_every_conditions {conditions : List Operator} (h : .length ∉ conditions) :
    (Evaluation.every (conditions.map fun op => (ops.only op).evaluate value scope)).untraced =
      .verdict (conditions.all fun op => (ops.only op).conditions.hold value) := by
  rw [Evaluation.untraced_every, List.map_map, ← Evaluation.every_map_verdict]
  refine congrArg Evaluation.every (List.map_congr_left fun op hop => ?_)
  exact untraced_only_condition ops op value scope fun heq => h (heq ▸ hop)

/-- **The conditions hold where those of each operator hold alone.** -/
theorem hold_eq_all_only : ops.conditions.hold value =
    (Operator.all.dropLast.filter ops.isSingle).all
      fun op => (ops.only op).conditions.hold value := by
  rw [Bool.eq_iff_iff, hold_iff, List.all_eq_true]
  constructor
  · intro h op _
    exact (only_hold_iff ops op value).mpr (h op)
  · intro h op hset happlies
    -- The flag and the length are met by any value, so it is about the conditions in the list.
    by_cases hflag : op = .caseInsensitive
    · rw [hflag]
      rfl
    have hsingle : op ∈ Operator.all.filter ops.isSingle :=
      List.mem_filter.mpr ⟨op.mem_all, (isSingle_iff ops op).mpr ⟨hset, hflag⟩⟩
    rw [filter_isSingle, List.mem_append] at hsingle
    rcases hsingle with hcondition | hlength
    · exact (only_hold_iff ops op value).mp (h op hcondition) hset happlies
    · rw [List.mem_singleton.mp (List.mem_filter.mp hlength).1]
      rfl

theorem untraced_every_length :
    (Evaluation.every (([Operator.length].filter ops.isSingle).map fun op =>
      (ops.only op).evaluate value scope)).untraced =
      (evaluateLength ops.length value scope).untraced := by
  have hsingle := untraced_only_length ops value scope
  rw [List.filter_cons, List.filter_nil, isSingle_length]
  cases h : ops.length with
  | none =>
    rw [evaluateLength.eq_def]
    rfl
  | some inner =>
    rw [h] at hsingle
    exact (congrArg Evaluation.untraced (Evaluation.every_singleton _)).trans hsingle

/-- The operators one after the other: the conditions, and then the length. -/
theorem untraced_every_only :
    (Evaluation.every ((Operator.all.filter ops.isSingle).map fun op =>
      (ops.only op).evaluate value scope)).untraced =
      (Evaluation.verdict (ops.conditions.hold value)).andThen fun _ =>
        (evaluateLength ops.length value scope).untraced := by
  have hconditions : .length ∉ Operator.all.dropLast.filter ops.isSingle := fun hmem =>
    absurd (List.mem_filter.mp hmem).1 (by decide)
  rw [filter_isSingle, List.map_append, Evaluation.every_append, Evaluation.untraced_andThen,
    untraced_every_conditions ops value scope hconditions, ← hold_eq_all_only,
    untraced_every_length]

end Single

/-- **An operator set is the conjunction of its single operators.**  The sets with one operator
each, in the order of all operators and up to the first that does not match, and then the
combinators have the same outcome after the same calls, failures included. -/
theorem evaluate_conjunction (ops : OperatorSet) (value : Option Value) (scope : Scope) :
    let single := fun op => (ops.only op).evaluate value scope
    let operators := Operator.all.filter fun op => op ∈ ops.configured ∧ op ≠ .caseInsensitive
    let conjunction := (Evaluation.every (operators.map single)).andThen
      fun _ => ops.combinators.evaluate scope
    (ops.evaluate value scope).outcome = conjunction.outcome ∧
    (ops.evaluate value scope).calls = conjunction.calls ∧
    ∀ op slot, (ops.only op).get? slot =
      if slot = .operator op ∨ slot = .operator .caseInsensitive then ops.get? slot else none := by
  intro single operators conjunction
  have hsingles : (Evaluation.every (operators.map single)).untraced =
      (Evaluation.verdict (ops.conditions.hold value)).andThen fun _ =>
        (evaluateLength ops.length value scope).untraced := untraced_every_only ops value scope
  have huntraced : (ops.evaluate value scope).untraced = conjunction.untraced := by
    calc (ops.evaluate value scope).untraced
        = (Evaluation.verdict (ops.conditions.hold value)).andThen fun _ =>
            (evaluateLength ops.length value scope).untraced.andThen
              fun _ => (ops.combinators.evaluate scope).untraced := by
          simp only [evaluate_eq, Evaluation.untraced_after, untraced_ignoredEvents,
            Evaluation.after_nil, Evaluation.untraced_andThen, Evaluation.untraced_verdict]
      _ = conjunction.untraced := by
          rw [Evaluation.untraced_andThen, hsingles, Evaluation.andThen_assoc]
  obtain ⟨houtcome, hcalls⟩ := Evaluation.outcome_calls_eq_of_untraced huntraced
  refine ⟨houtcome, hcalls, fun op slot => ?_⟩
  rw [only, get?_restrict]
  simp only [decide_eq_true_eq]

end OperatorSet

end RecordFilter
