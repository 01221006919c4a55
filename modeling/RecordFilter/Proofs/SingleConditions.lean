/-
# Sets of one condition

What a set with a single condition asks of a value: that the condition is met where it applies, and
nothing else (`OperatorSet.outcomeOf_condition`).  Such a set has no length and no combinators, so
it calls no predicate, and it always has a verdict.

From this one statement the verdicts are read off family by family.  The two equalities apply to
every value (`OperatorSet.outcomeOf_equals`, `OperatorSet.outcomeOf_notEquals`); a comparison with a
bound holds of all that is no numeric (`OperatorSet.outcomeOf_comparison`), an inclusion of values of
all that is no array (`OperatorSet.outcomeOf_inclusion`).
-/
import RecordFilter.Proofs.InForce

namespace RecordFilter

/-! ## 1. One condition -/

namespace OperatorSet

/-- The outcome, on a value, of the set that some settings make. -/
def outcomeOf (settings : List Setting) (value : Option Value) (scope : Scope) :
    Except PredicateFailure Bool :=
  ((ofSettings settings).evaluate value scope).outcome

/-- The set of one setting besides the flag that ignores case. -/
def flagged (ignoringCase : Bool) (s : Setting) : OperatorSet :=
  ofSettings [.caseInsensitive ignoringCase, s]

/-- A set of conditions alone matches where they hold. -/
theorem evaluate_conditions (conditions : Conditions) (value : Option Value) (scope : Scope) :
    ((OperatorSet.mk conditions none .empty).evaluate value scope).outcome =
      .ok (conditions.hold value) := by
  have hempty : Combinators.empty.evaluate scope = .verdict true := rfl
  have hnone : evaluateLength none value scope = .verdict true := by
    rw [evaluateLength.eq_def]
  rw [evaluate_eq, hnone, hempty]
  cases conditions.hold value <;> simp [Evaluation.verdict, Evaluation.after]

section Condition

variable {s : Setting} {op : Operator} {ignoringCase : Bool} {value : Option Value} {scope : Scope}

theorem get?_flagged (slot : Slot) : (flagged ignoringCase s).get? slot =
    if s.slot = slot then s.kept
    else if slot = .operator .caseInsensitive then (Setting.caseInsensitive ignoringCase).kept
    else none := by
  rw [flagged, ofSettings, List.foldl_cons, List.foldl_cons, List.foldl_nil, get?_set, get?_set,
    get?_empty]
  simp only [Setting.slot, eq_comm]

theorem sets_flagged_self (hslot : s.slot = .operator op) (hflag : op ≠ .caseInsensitive) :
    (flagged ignoringCase s).sets op = true := by
  have hkept := Setting.kept_of_slot hslot fun h => hflag (Slot.operator.inj h)
  rw [sets, get?_flagged, if_pos hslot, hkept]
  rfl

theorem eq_of_sets_flagged (hslot : s.slot = .operator op) {other : Operator}
    (h : (flagged ignoringCase s).sets other = true) : other = op ∨ other = .caseInsensitive := by
  rw [sets, get?_flagged, hslot] at h
  split at h
  next heq => exact .inl (Slot.operator.inj heq).symm
  next =>
    split at h
    next heq => exact .inr (Slot.operator.inj heq)
    next => cases h

/-- The one condition is met where it applies; the flag asks nothing itself. -/
theorem hold_flagged (hslot : s.slot = .operator op) (hflag : op ≠ .caseInsensitive) :
    (flagged ignoringCase s).conditions.hold value =
      (!op.appliesTo (Category.of value) ||
        (flagged ignoringCase s).conditions.met value true op) := by
  rw [Bool.eq_iff_iff, hold_iff, Bool.or_eq_true, Bool.not_eq_true']
  constructor
  · intro h
    have hop := h op (sets_flagged_self hslot hflag)
    cases happlies : op.appliesTo (Category.of value) with
    | false => exact .inl rfl
    | true => exact .inr (hop happlies)
  · intro h other hset happlies
    rcases eq_of_sets_flagged hslot hset with rfl | rfl
    · exact h.resolve_left (by simp [happlies])
    · rfl

/-- **A set of one condition asks that it is met where it applies**, and nothing else. -/
theorem outcomeOf_condition (hslot : s.slot = .operator op) (hflag : op ≠ .caseInsensitive)
    (hlength : op ≠ .length) : outcomeOf [.caseInsensitive ignoringCase, s] value scope =
      .ok (!op.appliesTo (Category.of value) ||
        (flagged ignoringCase s).conditions.met value true op) := by
  have hparts : flagged ignoringCase s =
      ⟨(flagged ignoringCase s).conditions, none, .empty⟩ := by
    cases s with
    | length => exact absurd (Slot.operator.inj hslot).symm hlength
    | combine => cases hslot
    | _ => rfl
  have houtcome : outcomeOf [.caseInsensitive ignoringCase, s] value scope =
      ((flagged ignoringCase s).evaluate value scope).outcome := rfl
  rw [houtcome, hparts, evaluate_conditions, hold_flagged hslot hflag]

end Condition

end OperatorSet

/-! ## 2. Families of conditions -/

/-- The operators that compare with a bound. -/
inductive Comparison where
  | greaterThan
  | greaterThanOrEqual
  | lessThan
  | lessThanOrEqual
deriving DecidableEq

namespace Comparison

/-- The operator of a comparison. -/
def operator : Comparison → Operator
  | greaterThan => .greaterThan
  | greaterThanOrEqual => .greaterThanOrEqual
  | lessThan => .lessThan
  | lessThanOrEqual => .lessThanOrEqual

/-- The comparison with a bound, as a setting. -/
def setting : Comparison → Numeric → Setting
  | greaterThan => .greaterThan
  | greaterThanOrEqual => .greaterThanOrEqual
  | lessThan => .lessThan
  | lessThanOrEqual => .lessThanOrEqual

end Comparison

/-- The operators that look for values in an array. -/
inductive Inclusion where
  | every
  | some
  | none
deriving DecidableEq

namespace Inclusion

/-- The operator of an inclusion. -/
def operator : Inclusion → Operator
  | every => .includesEvery
  | some => .includesSome
  | none => .includesNone

/-- The inclusion of a list of values, as a setting. -/
def setting : Inclusion → List Value → Setting
  | every => .includesEvery
  | some => .includesSome
  | none => .includesNone

/-- Does an array with these items include the values, in the way that is asked? -/
def holds : Inclusion → List Value → List Value → Bool
  | every, items, vs => vs.all (Conditions.hasItem items)
  | some, items, vs => vs.any (Conditions.hasItem items)
  | none, items, vs => !vs.any (Conditions.hasItem items)

end Inclusion

namespace Value

theorem bind_numeric?_of_not_numeric {value : Option Value}
    (h : ¬∃ n, value = some (.ofNumeric n)) : value.bind numeric? = none := by
  match value with
  | none | some .null | some (.bool _) | some (.string _) | some (.array _)
  | some (.object _) => rfl
  | some (.number n) => exact absurd ⟨.number n, rfl⟩ h
  | some (.timestamp t) => exact absurd ⟨.timestamp t, rfl⟩ h

theorem bind_array?_of_not_array {value : Option Value}
    (h : ¬∃ items, value = some (.array items)) : value.bind array? = none := by
  match value with
  | none | some .null | some (.bool _) | some (.number _) | some (.timestamp _)
  | some (.string _) | some (.object _) => rfl
  | some (.array items) => exact absurd ⟨items, rfl⟩ h

end Value

namespace OperatorSet

variable {value : Option Value} {scope : Scope}

theorem outcomeOf_equals (ignoringCase : Bool) (v : Value) :
    outcomeOf [.caseInsensitive ignoringCase, .equals v] value scope =
      .ok (Conditions.equalFolded { caseInsensitive := ignoringCase } value v) := by
  have hslot : (Setting.equals v).slot = .operator .equals := rfl
  exact outcomeOf_condition hslot (by decide) (by decide)

theorem outcomeOf_notEquals (ignoringCase : Bool) (v : Value) :
    outcomeOf [.caseInsensitive ignoringCase, .notEquals v] value scope =
      .ok (!Conditions.equalFolded { caseInsensitive := ignoringCase } value v) := by
  have hslot : (Setting.notEquals v).slot = .operator .notEquals := rfl
  exact outcomeOf_condition hslot (by decide) (by decide)

/-- With the flag off the equalities look at the value as it is. -/
theorem equalFolded_exact (v : Value) :
    Conditions.equalFolded { caseInsensitive := false } value v =
      Conditions.presentEqual value v := by
  have hfold : Conditions.foldValue { caseInsensitive := false } = id := by
    funext w
    cases w <;> simp [Conditions.foldValue, Conditions.lowered]
  rw [Conditions.equalFolded, hfold, Conditions.presentEqual_eq_any]
  rfl

theorem outcomeOf_equals_exact (v : Value) :
    outcomeOf [.equals v] value scope = .ok (Conditions.presentEqual value v) := by
  rw [← equalFolded_exact]
  exact outcomeOf_equals false v

theorem outcomeOf_notEquals_exact (v : Value) :
    outcomeOf [.notEquals v] value scope = .ok !Conditions.presentEqual value v := by
  rw [← equalFolded_exact]
  exact outcomeOf_notEquals false v

theorem appliesTo_of_numerical {op : Operator} (h : op.category = .numerical) :
    op.appliesTo (Category.of value) = (value.bind Value.numeric?).isSome := by
  rw [Operator.appliesTo_eq, h]
  match value with
  | none | some .null | some (.bool _) | some (.number _) | some (.timestamp _)
  | some (.string _) | some (.array _) | some (.object _) => rfl

theorem appliesTo_of_array {op : Operator} (h : op.category = .array) :
    op.appliesTo (Category.of value) = (value.bind Value.array?).isSome := by
  rw [Operator.appliesTo_eq, h]
  match value with
  | none | some .null | some (.bool _) | some (.number _) | some (.timestamp _)
  | some (.string _) | some (.array _) | some (.object _) => rfl

/-- A condition on what is read of a value, which applies where something is read. -/
theorem outcomeOf_reading {α : Type} {read : Value → Option α} {test : α → Bool} {s : Setting}
    {op : Operator} (hslot : s.slot = .operator op) (hflag : op ≠ .caseInsensitive)
    (hlength : op ≠ .length)
    (happlies : op.appliesTo (Category.of value) = (value.bind read).isSome)
    (hmet : (flagged false s).conditions.met value true op = (value.bind read).any test) :
    outcomeOf [s] value scope = .ok ((value.bind read).all test) := by
  have houtcome : outcomeOf [.caseInsensitive false, s] value scope = _ :=
    outcomeOf_condition hslot hflag hlength
  have hall : (!(value.bind read).isSome || (value.bind read).any test) =
      (value.bind read).all test := by
    cases value.bind read <;> rfl
  rw [happlies, hmet, hall] at houtcome
  exact houtcome

/-- **A comparison asks of a numeric that its order with the bound is accepted**, and nothing of
other values. -/
theorem outcomeOf_comparison (c : Comparison) (bound : Numeric) :
    outcomeOf [c.setting bound] value scope =
      .ok ((value.bind Value.numeric?).all fun n => Conditions.ordered c.operator n bound) := by
  have hcategory : c.operator.category = .numerical := by cases c <;> rfl
  have hslot : (c.setting bound).slot = .operator c.operator := by cases c <;> rfl
  have hmet : (flagged false (c.setting bound)).conditions.met value true c.operator =
      (value.bind Value.numeric?).any fun n => Conditions.ordered c.operator n bound := by
    simp only [Conditions.ordered_eq]
    cases c <;> rfl
  exact outcomeOf_reading hslot (by cases c <;> decide) (by cases c <;> decide)
    (appliesTo_of_numerical hcategory) hmet

theorem outcomeOf_comparison_numeric (c : Comparison) (n bound : Numeric) :
    outcomeOf [c.setting bound] (some (.ofNumeric n)) scope =
      .ok (Conditions.ordered c.operator n bound) := by
  rw [outcomeOf_comparison, Option.bind_some, Value.numeric?_ofNumeric]
  rfl

theorem outcomeOf_comparison_other (h : ¬∃ n, value = some (.ofNumeric n)) (c : Comparison)
    (bound : Numeric) : outcomeOf [c.setting bound] value scope = .ok true := by
  rw [outcomeOf_comparison, Value.bind_numeric?_of_not_numeric h]
  rfl

/-- **An inclusion asks of an array that it includes the values**, and nothing of other values. -/
theorem outcomeOf_inclusion (k : Inclusion) (vs : List Value) :
    outcomeOf [k.setting vs] value scope =
      .ok ((value.bind Value.array?).all fun items => k.holds items vs) := by
  have hcategory : k.operator.category = .array := by cases k <;> rfl
  have hslot : (k.setting vs).slot = .operator k.operator := by cases k <;> rfl
  have hmet : (flagged false (k.setting vs)).conditions.met value true k.operator =
      (value.bind Value.array?).any fun items => k.holds items vs := by
    cases k <;> rfl
  exact outcomeOf_reading hslot (by cases k <;> decide) (by cases k <;> decide)
    (appliesTo_of_array hcategory) hmet

theorem outcomeOf_inclusion_array (k : Inclusion) (items vs : List Value) :
    outcomeOf [k.setting vs] (some (.array items)) scope = .ok (k.holds items vs) := by
  rw [outcomeOf_inclusion]
  rfl

theorem outcomeOf_inclusion_other (h : ¬∃ items, value = some (.array items)) (k : Inclusion)
    (vs : List Value) : outcomeOf [k.setting vs] value scope = .ok true := by
  rw [outcomeOf_inclusion, Value.bind_array?_of_not_array h]
  rfl

end OperatorSet

end RecordFilter
