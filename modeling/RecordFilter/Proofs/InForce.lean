/-
# The operators that are in force

An operator of another category than the value's asks nothing of it, and a journal says that it was
ignored.  So the operators that do not apply can be deleted: from the set on the value
(`OperatorSet.inForce`), and from the sets of lengths inside, which look at numbers
(`OperatorSet.pruned`).  What is left has the same outcome after the same calls, and no line about
ignored operators of its own.

The conditions of a set hold when each operator that is set and applies is met
(`OperatorSet.hold_iff`), and this takes one operator at a time.  So the conditions of a part of a
set hold when the operators in the part are met (`OperatorSet.hold_restrict_iff`), provided that
the flag that ignores case is kept where it matters, on strings.
-/
import RecordFilter.Proofs.Formula
import RecordFilter.Proofs.Settings

namespace RecordFilter

/-! ## 1. Evaluations without the ignored operators -/

/-- Is the event about ignored operators? -/
def Event.isIgnored : Event → Bool
  | .ignored _ _ => true
  | _ => false

namespace Evaluation

/-- The evaluation without its events about ignored operators. -/
def untraced (e : Evaluation) : Evaluation := ⟨e.events.filter (!·.isIgnored), e.outcome⟩

@[simp] theorem untraced_verdict (b : Bool) : (verdict b).untraced = verdict b := rfl

theorem untraced_after (e : Evaluation) (events : Journal) :
    (e.after events).untraced = e.untraced.after (events.filter (!·.isIgnored)) := by
  simp [untraced, after]

theorem untraced_andThen (first : Evaluation) (next : Unit → Evaluation) :
    (first.andThen next).untraced = first.untraced.andThen fun _ => (next ()).untraced := by
  obtain ⟨events, outcome⟩ := first
  match outcome with
  | .ok true => exact untraced_after (next ()) events
  | .ok false => rfl
  | .error _ => rfl

theorem untraced_every : ∀ es : List Evaluation,
    (every es).untraced = every (es.map untraced)
  | [] => rfl
  | e :: rest => by
    rw [every, untraced_andThen, untraced_every rest]
    rfl

theorem calls_untraced (e : Evaluation) : e.untraced.calls = e.calls := by
  change (e.events.filter (!·.isIgnored)).filterMap Event.call? = e.events.filterMap Event.call?
  rw [List.filterMap_filter]
  refine List.filterMap_congr fun event _ => ?_
  cases event <;> rfl

/-- What differs in ignored operators only has the same outcome after the same calls. -/
theorem outcome_calls_eq_of_untraced {e e' : Evaluation} (h : e.untraced = e'.untraced) :
    e.outcome = e'.outcome ∧ e.calls = e'.calls := by
  have houtcome : e.untraced.outcome = e'.untraced.outcome := by rw [h]
  have hcalls : e.untraced.calls = e'.untraced.calls := by rw [h]
  rw [calls_untraced, calls_untraced] at hcalls
  exact ⟨houtcome, hcalls⟩

end Evaluation

/-! ## 2. Conditions one operator at a time -/

namespace OperatorSet

/-- An operator set by its three parts. -/
theorem evaluate_eq (ops : OperatorSet) (value : Option Value) (scope : Scope) :
    ops.evaluate value scope =
      ((Evaluation.verdict (ops.conditions.hold value)).andThen fun _ =>
        (evaluateLength ops.length value scope).andThen fun _ =>
          ops.combinators.evaluate scope).after
        (ignoredEvents ops.configured (Category.of value)) := by
  obtain ⟨conditions, length, combinators⟩ := ops
  rw [OperatorSet.evaluate]

/-- **The conditions hold exactly when each operator that is set and applies is met.**  A length is
no condition. -/
theorem hold_iff (ops : OperatorSet) (value : Option Value) :
    ops.conditions.hold value = true ↔
      ∀ op, ops.sets op = true → op.appliesTo (Category.of value) = true →
        ops.conditions.met value true op = true := by
  have hlength : ops.conditions.met value true .length = true := rfl
  have hmem : ∀ op, op ∈ ops.conditions.configured ∨ op = .length ↔
      op ∈ ops.configured ∨ op = .length := by
    intro op
    rw [configured, List.mem_append]
    cases ops.length <;> simp
  rw [ops.conditions.hold_eq_all_met value true, List.all_eq_true]
  constructor
  · intro hall op hset happlies
    rcases (hmem op).mpr (.inl (mem_configured_iff.mpr hset)) with hop | rfl
    · exact hall op (List.mem_filter.mpr ⟨hop, happlies⟩)
    · exact hlength
  · intro hall op hop
    obtain ⟨hop, happlies⟩ := List.mem_filter.mp hop
    rcases (hmem op).mp (.inl hop) with hop | rfl
    · exact hall op (mem_configured_iff.mp hop) happlies
    · exact hlength

section Met

variable {ops ops' : OperatorSet} {value : Option Value}

theorem lowered_congr (hflag : ops.conditions.caseInsensitive = ops'.conditions.caseInsensitive) :
    ops.conditions.lowered = ops'.conditions.lowered := by
  funext s
  rw [Conditions.lowered, Conditions.lowered, hflag]

/-- The flag that ignores case makes no difference on what is no string. -/
theorem equalFolded_congr
    (hflag : ops.conditions.caseInsensitive = ops'.conditions.caseInsensitive ∨
      value.bind Value.string? = none) :
    ops.conditions.equalFolded value = ops'.conditions.equalFolded value := by
  rcases hflag with hflag | hvalue
  · have hfold : ops.conditions.foldValue = ops'.conditions.foldValue := by
      funext v
      cases v <;> simp only [Conditions.foldValue, lowered_congr hflag]
    funext operand
    rw [Conditions.equalFolded, Conditions.equalFolded, hfold]
  · rw [← ops.conditions.presentEqual_eq hvalue, ← ops'.conditions.presentEqual_eq hvalue]

/-- What is asked of strings makes no difference on what is no string. -/
theorem metBy_string_congr {α : Type} {setting setting' : Option α} {f f' : α → String → Bool}
    (hsetting : setting = setting') (h : f = f' ∨ value.bind Value.string? = none) :
    Conditions.metBy setting (value.bind Value.string?) f =
      Conditions.metBy setting' (value.bind Value.string?) f' := by
  subst hsetting
  rcases h with rfl | hvalue
  · rfl
  · rw [hvalue]
    rfl

/-- **Whether an operator is met depends on its own setting**, and on the flag that ignores case
where the value is a string. -/
theorem met_congr {op : Operator} (hop : ops.get? (.operator op) = ops'.get? (.operator op))
    (hflag : ops.conditions.caseInsensitive = ops'.conditions.caseInsensitive ∨
      value.bind Value.string? = none) (lengthMet : Bool) :
    ops.conditions.met value lengthMet op = ops'.conditions.met value lengthMet op := by
  have hequal := equalFolded_congr hflag
  have hlowered : ops.conditions.lowered = ops'.conditions.lowered ∨
      value.bind Value.string? = none := hflag.imp_left lowered_congr
  cases op with
  | caseInsensitive | length => rfl
  | equals | notEquals =>
    rw [Conditions.met, Conditions.met, Option.map_injective (fun _ _ h => by injection h) hop,
      hequal]
  | includes | startsWith | endsWith | matchesPattern =>
    refine metBy_string_congr (Option.map_injective (fun _ _ h => by injection h) hop) ?_
    exact hlowered.imp_left fun h => by rw [h]
  | greaterThan | greaterThanOrEqual | lessThan | lessThanOrEqual | includesEvery | includesSome
  | includesNone =>
    rw [Conditions.met, Conditions.met, Option.map_injective (fun _ _ h => by injection h) hop]

/-- **The conditions of a part of a set** hold exactly when each operator in the part is met, among
those that are set and apply. -/
theorem hold_restrict_iff {keep : Slot → Bool}
    (hflag : keep (.operator .caseInsensitive) = true ∨ value.bind Value.string? = none) :
    (ops.restrict keep).conditions.hold value = true ↔
      ∀ op, keep (.operator op) = true → ops.sets op = true →
        op.appliesTo (Category.of value) = true → ops.conditions.met value true op = true := by
  have hflag' : (ops.restrict keep).conditions.caseInsensitive = ops.conditions.caseInsensitive ∨
      value.bind Value.string? = none := by
    refine hflag.imp_left fun hkeep => ?_
    rw [← sets_caseInsensitive, ← sets_caseInsensitive, sets_restrict, hkeep, Bool.true_and]
  have hmet : ∀ op, keep (.operator op) = true →
      (ops.restrict keep).conditions.met value true op = ops.conditions.met value true op :=
    fun op hkeep => met_congr (by rw [get?_restrict, if_pos hkeep]) hflag' true
  simp only [hold_iff, sets_restrict, Bool.and_eq_true]
  constructor
  · intro h op hkeep hset happlies
    rw [← hmet op hkeep]
    exact h op ⟨hkeep, hset⟩ happlies
  · rintro h op ⟨hkeep, hset⟩ happlies
    rw [hmet op hkeep]
    exact h op hkeep hset happlies

end Met

end OperatorSet

/-! ## 3. Deletion -/

/-- Does what stands in a slot have an effect on values of a category?  Combinators look at the
record, whatever the value is. -/
def Slot.appliesTo : Slot → Category → Bool
  | .operator op, category => op.appliesTo category
  | .combinator _, _ => true

/-- The set without the operators that have no effect on values of a category. -/
def OperatorSet.inForce (ops : OperatorSet) (category : Category) : OperatorSet :=
  ops.restrict fun slot => slot.appliesTo category

mutual

/-- The set without these operators, and so the sets of lengths inside, each for its own value: a
length is a number. -/
def OperatorSet.pruned : OperatorSet → Category → OperatorSet
  | ⟨conditions, length, combinators⟩, category =>
    OperatorSet.inForce ⟨conditions, OperatorSet.prunedLength length, combinators⟩ category

/-- The set of a length without the operators that have no effect on numbers. -/
def OperatorSet.prunedLength : Option OperatorSet → Option OperatorSet
  | none => none
  | some ops => some (ops.pruned .numerical)

end

namespace OperatorSet

/-- The line about the operators of a set that do not apply to values of a category: none where
there are no such operators. -/
def ignoredLines (ignored : List Operator) (category : Category) : List LogLine :=
  if ignored = [] then [] else
    [⟨.trace, "ignoring operators [" ++ String.intercalate ", " (ignored.map Operator.name)
      ++ "] for " ++ category.name ++ " value"⟩]

theorem lines_ignoredEvents (configured : List Operator) (category : Category) :
    Journal.lines (ignoredEvents configured category) .trace =
      ignoredLines (configured.filter fun op => !op.appliesTo category) category := by
  unfold ignoredEvents
  cases configured.filter fun op => !op.appliesTo category <;> rfl

theorem untraced_ignoredEvents (configured : List Operator) (category : Category) :
    (ignoredEvents configured category).filter (!·.isIgnored) = [] := by
  unfold ignoredEvents
  split <;> rfl

/-- What is in force leaves nothing to ignore. -/
theorem ignoredEvents_inForce (ops : OperatorSet) (category : Category) :
    ignoredEvents (ops.inForce category).configured category = [] := by
  have hnone : (ops.inForce category).configured.filter (fun op => !op.appliesTo category) =
      [] := by
    rw [List.filter_eq_nil_iff]
    intro op hop
    rw [mem_configured_iff, inForce, sets_restrict, Bool.and_eq_true] at hop
    have happlies : op.appliesTo category = true := hop.1
    simp [happlies]
  unfold ignoredEvents
  rw [hnone]

/-- A length is asked on arrays only. -/
theorem evaluateLength_of_not_array {value : Option Value}
    (h : Operator.length.appliesTo (Category.of value) = false) (length : Option OperatorSet)
    (scope : Scope) : evaluateLength length value scope = .verdict true := by
  match length, value with
  | some _, some (.array _) => cases h
  | none, _ => rw [evaluateLength.eq_def]
  | some _, none | some _, some .null | some _, some (.bool _) | some _, some (.number _)
  | some _, some (.timestamp _) | some _, some (.string _) | some _, some (.object _) => rfl

/-- **The operators in force alone decide.**  Without the others a set evaluates in the same way,
but for the line about them. -/
theorem evaluate_inForce (ops : OperatorSet) (value : Option Value) (scope : Scope) :
    ops.evaluate value scope =
      ((ops.inForce (Category.of value)).evaluate value scope).after
        (ignoredEvents ops.configured (Category.of value)) := by
  have hstring : (Slot.operator .caseInsensitive).appliesTo (Category.of value) = true ∨
      value.bind Value.string? = none := by
    match value with
    | some (.string _) => exact .inl rfl
    | none | some .null | some (.bool _) | some (.number _) | some (.timestamp _)
    | some (.array _) | some (.object _) => exact .inr rfl
  have hhold : (ops.inForce (Category.of value)).conditions.hold value =
      ops.conditions.hold value := by
    rw [Bool.eq_iff_iff, inForce, hold_restrict_iff hstring, hold_iff]
    exact ⟨fun h op hset happlies => h op happlies hset happlies,
      fun h op _ hset happlies => h op hset happlies⟩
  have hlength : evaluateLength (ops.inForce (Category.of value)).length value scope =
      evaluateLength ops.length value scope := by
    rw [inForce, restrict_length]
    split
    next => rfl
    next happlies =>
      have hnot := Bool.eq_false_iff.mpr happlies
      rw [evaluateLength_of_not_array hnot, evaluateLength_of_not_array hnot]
  have hcombinators : (ops.inForce (Category.of value)).combinators = ops.combinators :=
    Combinators.ext_get? fun c => get?_restrict_combinators ops _ c
  rw [evaluate_eq (ops.inForce _), ignoredEvents_inForce, Evaluation.after_nil, hhold, hlength,
    hcombinators, ← evaluate_eq]

/-! ## 4. Deletion in the sets of lengths -/

theorem untraced_inForce (ops : OperatorSet) (value : Option Value) (scope : Scope) :
    ((ops.inForce (Category.of value)).evaluate value scope).untraced =
      (ops.evaluate value scope).untraced := by
  rw [evaluate_inForce ops, Evaluation.untraced_after, untraced_ignoredEvents,
    Evaluation.after_nil]

/-- Two sets with the same conditions and combinators evaluate in the same way, but for lines about
ignored operators, if their lengths do. -/
theorem untraced_evaluate_congr {conditions : Conditions} {length length' : Option OperatorSet}
    {combinators : Combinators} {value : Option Value} {scope : Scope}
    (h : (evaluateLength length value scope).untraced =
      (evaluateLength length' value scope).untraced) :
    (OperatorSet.evaluate ⟨conditions, length, combinators⟩ value scope).untraced =
      (OperatorSet.evaluate ⟨conditions, length', combinators⟩ value scope).untraced := by
  simp only [evaluate_eq, Evaluation.untraced_after, Evaluation.untraced_andThen,
    untraced_ignoredEvents, h]

mutual

/-- **Deleting what has no effect, also in the sets of lengths, changes lines only.** -/
theorem untraced_pruned : ∀ (ops : OperatorSet) (value : Option Value) (scope : Scope),
    ((ops.pruned (Category.of value)).evaluate value scope).untraced =
      (ops.evaluate value scope).untraced
  | ⟨_, length, _⟩, value, scope => by
    rw [pruned, untraced_inForce]
    exact untraced_evaluate_congr (untraced_prunedLength length value scope)

theorem untraced_prunedLength : ∀ (length : Option OperatorSet) (value : Option Value)
    (scope : Scope), (evaluateLength (prunedLength length) value scope).untraced =
      (evaluateLength length value scope).untraced
  | none, _, _ => by rw [prunedLength]
  | some ops, some (.array items), scope => by
    rw [prunedLength, evaluateLength, evaluateLength]
    exact untraced_pruned ops (some (.number (.unsigned (.ofNat items.length)))) scope
  | some _, none, _ | some _, some .null, _ | some _, some (.bool _), _
  | some _, some (.number _), _ | some _, some (.timestamp _), _ | some _, some (.string _), _
  | some _, some (.object _), _ => rfl

end

end OperatorSet

/-- A setting with what it holds pruned: only the set of a length holds operators. -/
def Setting.pruned : Setting → Setting
  | .length ops => .length (ops.pruned .numerical)
  | s => s

namespace OperatorSet

/-- What pruning leaves in the slots. -/
theorem get?_pruned (ops : OperatorSet) (category : Category) (slot : Slot) :
    (ops.pruned category).get? slot =
      if slot.appliesTo category then (ops.get? slot).map Setting.pruned else none := by
  obtain ⟨conditions, length, combinators⟩ := ops
  have hinner : get? ⟨conditions, prunedLength length, combinators⟩ slot =
      (get? ⟨conditions, length, combinators⟩ slot).map Setting.pruned := by
    cases slot with
    | combinator c => simp [get?, Setting.pruned, Function.comp_def]
    | operator op =>
      cases op with
      | length => cases length <;> rfl
      | caseInsensitive => cases h : conditions.caseInsensitive <;> simp [get?, h, Setting.pruned]
      | _ => simp [get?, Setting.pruned, Function.comp_def]
  rw [pruned, inForce, get?_restrict, hinner]

/-- **The operators reported as ignored are those without effect.**  A set from which the operators
that do not apply to the value are deleted, and from the sets of lengths those that do not apply to
numbers, has the same outcome after the same calls.  On a value a set writes one line, with those
of its operators that do not apply in the order of all operators, or none where there are no such;
its other lines are those that it writes without these operators. -/
theorem ignored_withoutEffect (ops : OperatorSet) (value : Option Value) (scope : Scope) :
    let category := Category.of value
    let ignored := Operator.all.filter fun op => op ∈ ops.configured ∧ op.appliesTo category = false
    (∀ slot, (ops.pruned category).get? slot =
      if slot.appliesTo category then (ops.get? slot).map Setting.pruned else none) ∧
    ((ops.pruned category).evaluate value scope).outcome = (ops.evaluate value scope).outcome ∧
    ((ops.pruned category).evaluate value scope).calls = (ops.evaluate value scope).calls ∧
    Journal.lines (ops.evaluate value scope).events .trace =
      ignoredLines ignored category ++
        Journal.lines ((ops.inForce category).evaluate value scope).events .trace := by
  intro category ignored
  obtain ⟨houtcome, hcalls⟩ :=
    Evaluation.outcome_calls_eq_of_untraced (untraced_pruned ops value scope)
  refine ⟨get?_pruned ops category, houtcome, hcalls, ?_⟩
  have hignored : ops.configured.filter (fun op => !op.appliesTo category) = ignored := by
    rw [configured_eq, List.filter_filter]
    refine List.filter_congr fun op _ => ?_
    rw [Bool.eq_iff_iff, decide_eq_true_iff, mem_configured_iff, Bool.and_eq_true,
      Bool.not_eq_true', and_comm]
  have hevents : (ops.evaluate value scope).events =
      ignoredEvents ops.configured category ++
        ((ops.inForce category).evaluate value scope).events := by
    rw [evaluate_inForce]
    rfl
  rw [hevents, Journal.lines_append, lines_ignoredEvents, hignored]

end OperatorSet

end RecordFilter
