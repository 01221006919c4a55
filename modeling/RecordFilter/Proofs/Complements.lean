/-
# Opposite conditions

Which conditions are each other's negation on a field.  Equality is one relation wherever it is
asked for, as a literal, as a condition, or by its negation, with and without case; it has a verdict
on every value, and on a field that is absent.  Conditions on arrays and on numerics are opposite
only where they apply: elsewhere both hold.  Where they apply, comparisons have one more gap, since
a NaN is in no order and passes none of them.
-/
import RecordFilter.Proofs.ExactValues
import RecordFilter.Proofs.SingleConditions

namespace RecordFilter

/-! ## 1. Comparisons -/

namespace Comparison

/-- The comparison that accepts the other orders. -/
def opposite : Comparison → Comparison
  | greaterThan => lessThanOrEqual
  | greaterThanOrEqual => lessThan
  | lessThan => greaterThanOrEqual
  | lessThanOrEqual => greaterThan

theorem accepts_opposite (c : Comparison) (o : Ordering) :
    c.opposite.operator.accepts o = !c.operator.accepts o := by
  cases c <;> cases o <;> rfl

end Comparison

namespace Numeric

variable {a b : Numeric}

/-- There is no order where one side is a NaN, and only there. -/
theorem compare?_eq_none_iff : a.compare? b = none ↔ a.isNaN = true ∨ b.isNaN = true := by
  rw [← isNaN_normalize a, ← isNaN_normalize b]
  exact Number.compare?_eq_none_iff

/-- A NaN passes no comparison. -/
theorem ordered_of_isNaN (h : a.isNaN = true ∨ b.isNaN = true) (op : Operator) :
    Conditions.ordered op a b = false := by
  rw [Conditions.ordered, compare?_eq_none_iff.mpr h]

/-- Where there is an order, just one of two opposite comparisons is passed. -/
theorem ordered_opposite (ha : a.isNaN = false) (hb : b.isNaN = false) (c : Comparison) :
    Conditions.ordered c.opposite.operator a b = !Conditions.ordered c.operator a b := by
  have hsome : a.compare? b ≠ none := fun hnone => by
    simpa [ha, hb] using compare?_eq_none_iff.mp hnone
  obtain ⟨o, ho⟩ := Option.ne_none_iff_exists'.mp hsome
  rw [Conditions.ordered, Conditions.ordered, ho]
  exact c.accepts_opposite o

end Numeric

/-! ## 2. Fields -/

namespace Clause

/-- The outcome, on a field, of the operators that some settings make. -/
def outcomeOf (settings : List Setting) (name : String) (scope : Scope) :
    Except PredicateFailure Bool :=
  ((operators (.ofSettings settings)).evaluate name scope).outcome

/-- Two lists of settings have a verdict each on a field, and these are opposite. -/
def Opposite (settings settings' : List Setting) (name : String) (scope : Scope) : Prop :=
  ∃ t : Bool, outcomeOf settings name scope = .ok t ∧ outcomeOf settings' name scope = .ok !t

section Field

variable {name : String} {scope : Scope} {n b : Numeric}

theorem outcomeOf_eq (settings : List Setting) : outcomeOf settings name scope =
    OperatorSet.outcomeOf settings (scope.record.get? name) scope := rfl

/-- Some item is wanted just where none is refused, but only of an array is either asked. -/
theorem opposite_inclusions_iff (vs : List Value) :
    Opposite [.includesSome vs] [.includesNone vs] name scope ↔
      ∃ items, scope.record.get? name = some (.array items) := by
  constructor
  · rintro ⟨t, hsome, hnone⟩
    by_contra hx
    -- Elsewhere both match, and two matches are not opposite.
    have ht := hsome.symm.trans (OperatorSet.outcomeOf_inclusion_other hx .some vs)
    have hf := hnone.symm.trans (OperatorSet.outcomeOf_inclusion_other hx .none vs)
    rw [Except.ok.injEq] at ht hf
    rw [ht] at hf
    cases hf
  · rintro ⟨items, hx⟩
    refine ⟨Inclusion.some.holds items vs, ?_, ?_⟩
    · rw [outcomeOf_eq, hx]
      exact OperatorSet.outcomeOf_inclusion_array .some items vs
    · rw [outcomeOf_eq, hx]
      exact OperatorSet.outcomeOf_inclusion_array .none items vs

theorem outcomeOf_comparison (h : scope.record.get? name = some (.ofNumeric n)) (c : Comparison)
    (b : Numeric) :
    outcomeOf [c.setting b] name scope = .ok (Conditions.ordered c.operator n b) := by
  rw [outcomeOf_eq, h]
  exact OperatorSet.outcomeOf_comparison_numeric c n b

/-- Comparisons that accept different orders are opposite where there is an order. -/
theorem opposite_comparisons (h : scope.record.get? name = some (.ofNumeric n))
    (hn : n.isNaN = false) (hb : b.isNaN = false) (c : Comparison) :
    Opposite [c.setting b] [c.opposite.setting b] name scope := by
  refine ⟨_, outcomeOf_comparison h c b, ?_⟩
  rw [← Numeric.ordered_opposite hn hb c]
  exact outcomeOf_comparison h c.opposite b

end Field

/-- **Opposite conditions on a field.**  A literal, `equals` and the negation of `notEquals` have
the same verdict for every value of the field, and when it is absent; with case ignored the two
equalities are opposite as well.  `includesSome` and `includesNone` are opposite just on arrays, and
both match elsewhere.  Of the comparisons with a bound, `<` and `≥` are opposite, and `≤` and `>`,
where neither side is a NaN; none of the four matches a numeric where one side is a NaN, and all
match what is no numeric. -/
theorem complements (name : String) (scope : Scope) :
    let x := scope.record.get? name
    let verdict := fun settings : List Setting => outcomeOf settings name scope
    let opposite := fun settings settings' : List Setting => Opposite settings settings' name scope
    (∀ v, ∃ t, ((literal v).evaluate name scope).outcome = .ok t ∧
      verdict [.equals v] = .ok t ∧ verdict [.notEquals v] = .ok !t) ∧
    (∀ v, opposite [.caseInsensitive true, .equals v] [.caseInsensitive true, .notEquals v]) ∧
    (∀ vs, opposite [.includesSome vs] [.includesNone vs] ↔ ∃ items, x = some (.array items)) ∧
    (∀ vs, (¬∃ items, x = some (.array items)) →
      verdict [.includesSome vs] = .ok true ∧ verdict [.includesNone vs] = .ok true) ∧
    (∀ n b : Numeric, x = some (.ofNumeric n) → n.isNaN = false → b.isNaN = false →
      opposite [.lessThan b] [.greaterThanOrEqual b] ∧
        opposite [.lessThanOrEqual b] [.greaterThan b]) ∧
    (∀ n b : Numeric, x = some (.ofNumeric n) → n.isNaN = true ∨ b.isNaN = true →
      ∀ c : Comparison, verdict [c.setting b] = .ok false) ∧
    ∀ b : Numeric, (¬∃ n, x = some (.ofNumeric n)) →
      ∀ c : Comparison, verdict [c.setting b] = .ok true := by
  intro x verdict opposite
  refine ⟨fun v => ?_, fun v => ?_, opposite_inclusions_iff, fun vs hx => ⟨?_, ?_⟩,
    fun n b hx hn hb => ⟨?_, ?_⟩, fun n b hx hnan c => ?_, fun b hx c => ?_⟩
  · exact ⟨Conditions.presentEqual x v, rfl, OperatorSet.outcomeOf_equals_exact v,
      OperatorSet.outcomeOf_notEquals_exact v⟩
  · exact ⟨Conditions.equalFolded { caseInsensitive := true } x v,
      OperatorSet.outcomeOf_equals true v, OperatorSet.outcomeOf_notEquals true v⟩
  · exact OperatorSet.outcomeOf_inclusion_other hx .some vs
  · exact OperatorSet.outcomeOf_inclusion_other hx .none vs
  · exact opposite_comparisons hx hn hb .lessThan
  · exact opposite_comparisons hx hn hb .lessThanOrEqual
  · have houtcome := outcomeOf_comparison hx c b
    rwa [Numeric.ordered_of_isNaN hnan] at houtcome
  · exact OperatorSet.outcomeOf_comparison_other hx c b

/-- Three fields: an array with a tag, a number that is one, and a number that is none. -/
theorem complements_measured :
    let nan : Numeric := .number (.real ⟨0x7ff8000000000000⟩)
    let one : Numeric := .number (.signed ⟨1, by decide, by decide⟩)
    let scope : Scope := ⟨[], 0, ⟨[("tags", .array [.string "a"]), ("size", .ofNumeric one),
      ("noise", .ofNumeric nan)]⟩⟩
    Opposite [.includesSome [.string "a"]] [.includesNone [.string "a"]] "tags" scope ∧
    outcomeOf [.includesNone []] "size" scope = .ok true ∧
    Opposite [.lessThan one] [.greaterThanOrEqual one] "size" scope ∧
    outcomeOf [.lessThan one] "noise" scope = .ok false ∧
    outcomeOf [.greaterThan nan] "missing" scope = .ok true := by
  intro nan one scope
  have hnot : ∀ name, scope.record.get? name = none →
      ¬∃ n, scope.record.get? name = some (.ofNumeric n) := by
    rintro name hnone ⟨n, hn⟩
    rw [hnone] at hn
    cases hn
  obtain ⟨-, -, htags, -⟩ := complements "tags" scope
  obtain ⟨-, -, -, helsewhere, hsize, -⟩ := complements "size" scope
  obtain ⟨-, -, -, -, -, hnoise, -⟩ := complements "noise" scope
  obtain ⟨-, -, -, -, -, -, hmissing⟩ := complements "missing" scope
  refine ⟨(htags _).mpr ⟨_, rfl⟩, (helsewhere [] ?_).2, (hsize one one rfl rfl rfl).1,
    hnoise nan one rfl (.inl (by decide)) .lessThan, hmissing nan (hnot _ rfl) .greaterThan⟩
  rintro ⟨items, hitems⟩
  cases hitems

end Clause

end RecordFilter
