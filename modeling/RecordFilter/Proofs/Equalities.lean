/-
# The three equalities of numerics

Two numerics can be of one form, strictly equal, or found equal by a comparison.  Each of these
implies the next, and they differ in the kinds that they tell apart and in nothing else: both
equalities are a comparison that finds `eq`, between kinds that are the same
(`Numeric.sameForm_iff`) or that are not kept apart (`Numeric.strictEq_iff`).  Kept apart are a
timestamp from a number, and among numbers a wide integer from another one (`Numeric.Kind.apart`).

So on a numeric a match of `equals` passes both comparisons that admit equality and neither of those
that do not, and only where the kinds are kept apart can the former be passed without a match of
`equals` (`Numeric.equalities_nested`).  A NaN passes none of the five.
-/
import RecordFilter.Proofs.NumericOrder
import RecordFilter.Proofs.SingleConditions

namespace RecordFilter

namespace Numeric

/-! ## 1. Kinds -/

/-- The kinds of numerics. -/
inductive Kind where
  | signed
  | unsigned
  | wide
  | real
  | timestamp
deriving DecidableEq

/-- The kind of a numeric. -/
def kind : Numeric → Kind
  | number (.signed _) => .signed
  | number (.unsigned _) => .unsigned
  | number (.wide _) => .wide
  | number (.real _) => .real
  | timestamp _ => .timestamp

namespace Kind

/-- Does strict equality keep two kinds apart?  It does so with a timestamp and a number, and among
numbers with a wide integer and another one. -/
def apart : Kind → Kind → Bool
  | timestamp, timestamp => false
  | timestamp, _ | _, timestamp => true
  | wide, wide => false
  | wide, _ | _, wide => true
  | _, _ => false

/-- Is this one of the kinds that strict equality does not tell from each other? -/
def isPlain : Kind → Bool
  | signed | unsigned | real => true
  | wide | timestamp => false

theorem apart_self (k : Kind) : k.apart k = false := by
  cases k <;> rfl

/-- Different kinds are kept apart unless both are plain. -/
theorem apart_eq_false_iff {j k : Kind} (h : j ≠ k) :
    j.apart k = false ↔ j.isPlain = true ∧ k.isPlain = true := by
  cases j <;> cases k <;> simp_all [apart, isPlain]

end Kind

/-! ## 2. Equalities as comparisons -/

variable {a b : Numeric}

theorem integers_eq_iff {lo hi : Int} {m n : BoundedInt lo hi} :
    m = n ↔ compare m.val n.val = .eq := by
  rw [Int.compare_eq_eq, BoundedInt.val_inj]

/-- **Numerics are of one form when they are found equal and of one kind.** -/
theorem sameForm_iff : a.sameForm b = true ↔ a.compare? b = some .eq ∧ a.kind = b.kind := by
  cases a with
  | timestamp t =>
    cases b with
    | timestamp u =>
      obtain ⟨m⟩ := t
      obtain ⟨n⟩ := u
      simp [sameForm, kind, compare?, normalize, Number.compare?, Number.integer?,
        integers_eq_iff]
    | number n => cases n <;> simp [sameForm, kind]
  | number m =>
    cases b with
    | timestamp u => cases m <;> simp [sameForm, kind]
    | number n =>
      cases m <;> cases n <;>
        simp [sameForm, Number.sameForm, kind, compare?, normalize, Number.compare?,
          Number.integer?, Number.toBinary64, integers_eq_iff]

/-- **Numerics are strictly equal when they are found equal and their kinds are not kept apart.** -/
theorem strictEq_iff : (Value.ofNumeric a).strictEq (.ofNumeric b) = true ↔
    a.compare? b = some .eq ∧ a.kind.apart b.kind = false := by
  cases a with
  | timestamp t =>
    cases b with
    | timestamp u =>
      have hform : (Value.timestamp t).strictEq (.timestamp u) =
          (timestamp t).sameForm (timestamp u) := by rw [Value.strictEq, sameForm]
      rw [Value.ofNumeric, Value.ofNumeric, hform, sameForm_iff]
      exact and_congr_right fun _ => iff_of_true rfl rfl
    | number n => cases n <;> simp [Value.ofNumeric, Value.strictEq, kind, Kind.apart]
  | number m =>
    cases b with
    | timestamp u => cases m <;> simp [Value.ofNumeric, Value.strictEq, kind, Kind.apart]
    | number n =>
      have hapart : (kind (number m)).apart (kind (number n)) = (m.isWide != n.isWide) := by
        cases m <;> cases n <;> rfl
      rw [Value.ofNumeric, Value.ofNumeric, Value.strictEq, Number.strictEq_eq_true_iff, hapart,
        bne_eq_false_iff_eq, and_comm]
      rfl

theorem strictEq_eq_false_iff : (Value.ofNumeric a).strictEq (.ofNumeric b) = false ↔
    (a.compare? b = some .eq → a.kind.apart b.kind = true) := by
  rw [← Bool.not_eq_true, strictEq_iff, not_and, Bool.not_eq_false]

/-! ## 3. Verdicts on a numeric -/

/-- What is found equal passes the comparisons that admit equality, and no others do so. -/
theorem compare?_eq_iff_ordered : a.compare? b = some .eq ↔
    Conditions.ordered .greaterThanOrEqual a b = true ∧
      Conditions.ordered .lessThanOrEqual a b = true := by
  unfold Conditions.ordered
  cases a.compare? b with
  | none => simp
  | some o => cases o <;> simp [Operator.accepts]

/-- What is found equal passes neither of the strict comparisons. -/
theorem not_ordered_of_compare?_eq (h : a.compare? b = some .eq) :
    Conditions.ordered .greaterThan a b = false ∧ Conditions.ordered .lessThan a b = false := by
  rw [Conditions.ordered, Conditions.ordered, h]
  exact ⟨rfl, rfl⟩

/-- **The three equalities are nested**, and the gaps between them are known.  Numerics of one form
are strictly equal, and those are found equal.  Numerics are found equal but not strictly equal
exactly where their kinds are kept apart, and strictly equal but of another form exactly where they
are of different plain kinds.  On a numeric `equals` matches where the two are strictly equal; a
match passes `≥` and `≤` and fails `>` and `<`, and one that passes and fails these is without a
match of `equals` exactly where the kinds of what is found equal are kept apart. -/
theorem equalities_nested (a b : Numeric) (scope : Scope) :
    let strict := (Value.ofNumeric a).strictEq (.ofNumeric b)
    let verdict := fun s : Setting => OperatorSet.outcomeOf [s] (some (.ofNumeric a)) scope
    let atEquality := verdict (.greaterThanOrEqual b) = .ok true ∧
      verdict (.lessThanOrEqual b) = .ok true ∧ verdict (.greaterThan b) = .ok false ∧
        verdict (.lessThan b) = .ok false
    (a.sameForm b = true → strict = true) ∧
    (strict = true → a.compare? b = some .eq) ∧
    (a.compare? b = some .eq ∧ strict = false ↔
      a.compare? b = some .eq ∧ a.kind.apart b.kind = true) ∧
    (strict = true ∧ a.sameForm b = false ↔
      strict = true ∧ a.kind ≠ b.kind ∧ a.kind.isPlain = true ∧ b.kind.isPlain = true) ∧
    verdict (.equals (.ofNumeric b)) = .ok strict ∧
    (verdict (.equals (.ofNumeric b)) = .ok true → atEquality) ∧
    (atEquality ∧ verdict (.equals (.ofNumeric b)) = .ok false ↔
      a.compare? b = some .eq ∧ a.kind.apart b.kind = true) := by
  intro strict verdict atEquality
  have hequals : verdict (.equals (.ofNumeric b)) = .ok strict :=
    OperatorSet.outcomeOf_equals_exact (.ofNumeric b)
  have hgap : a.compare? b = some .eq ∧ strict = false ↔
      a.compare? b = some .eq ∧ a.kind.apart b.kind = true :=
    and_congr_right fun heq => strictEq_eq_false_iff.trans ⟨fun h => h heq, fun h _ => h⟩
  have hverdict : ∀ (c : Comparison) (t : Bool), verdict (c.setting b) = .ok t ↔
      Conditions.ordered c.operator a b = t := fun c t => by
    have hordered : verdict (c.setting b) = .ok _ := OperatorSet.outcomeOf_comparison_numeric c a b
    rw [hordered, Except.ok.injEq]
  have hat : atEquality ↔ a.compare? b = some .eq := by
    constructor
    · rintro ⟨hge, hle, -, -⟩
      exact compare?_eq_iff_ordered.mpr ⟨(hverdict .greaterThanOrEqual true).mp hge,
        (hverdict .lessThanOrEqual true).mp hle⟩
    · intro heq
      obtain ⟨hge, hle⟩ := compare?_eq_iff_ordered.mp heq
      obtain ⟨hgt, hlt⟩ := not_ordered_of_compare?_eq heq
      exact ⟨(hverdict .greaterThanOrEqual true).mpr hge, (hverdict .lessThanOrEqual true).mpr hle,
        (hverdict .greaterThan false).mpr hgt, (hverdict .lessThan false).mpr hlt⟩
  refine ⟨fun h => ?_, fun h => (strictEq_iff.mp h).1, hgap, and_congr_right fun h => ?_, hequals,
    fun h => ?_, ?_⟩
  · obtain ⟨heq, hkind⟩ := sameForm_iff.mp h
    exact strictEq_iff.mpr ⟨heq, hkind ▸ a.kind.apart_self⟩
  · obtain ⟨heq, hapart⟩ := strictEq_iff.mp h
    rw [← Bool.not_eq_true, sameForm_iff, not_and]
    constructor
    · exact fun hne => ⟨hne heq, (Kind.apart_eq_false_iff (hne heq)).mp hapart⟩
    · exact fun hne _ => hne.1
  · rw [hequals, Except.ok.injEq] at h
    exact hat.mpr (strictEq_iff.mp h).1
  · rw [hat, hequals, Except.ok.injEq]
    exact hgap

/-- Five four times over: as an integer twice, as a real number and in milliseconds.  The real one
is strictly equal to the plain integer and of another form; the wide one is kept apart from the
milliseconds, which pass every comparison with it but no match of `equals`. -/
theorem equalities_nested_five :
    let plain : Numeric := .number (.signed ⟨5, by decide, by decide⟩)
    let real : Numeric := .number (.real ⟨0x4014000000000000⟩)
    let wide : Numeric := .number (.wide ⟨5, by decide, by decide⟩)
    let millis : Numeric := .timestamp ⟨⟨5, by decide, by decide⟩⟩
    let verdict := fun (a : Numeric) (s : Setting) =>
      OperatorSet.outcomeOf [s] (some (.ofNumeric a)) ⟨[], 0, ⟨[]⟩⟩
    plain.sameForm plain = true ∧ (Value.ofNumeric plain).strictEq (.ofNumeric plain) = true ∧
    (Value.ofNumeric plain).strictEq (.ofNumeric real) = true ∧ plain.sameForm real = false ∧
    plain.compare? real = some .eq ∧ verdict plain (.equals (.ofNumeric real)) = .ok true ∧
    verdict plain (.greaterThan real) = .ok false ∧
    verdict millis (.equals (.ofNumeric wide)) = .ok false ∧
    verdict millis (.lessThanOrEqual wide) = .ok true := by
  intro plain real wide millis verdict
  have hplain : plain.sameForm plain = true := by decide
  have hreal : (Value.ofNumeric plain).strictEq (.ofNumeric real) = true := by decide +kernel
  have hform : plain.sameForm real = false := by decide
  have hmillis : millis.compare? wide = some .eq := by decide +kernel
  have hapart : millis.kind.apart wide.kind = true := rfl
  obtain ⟨hstrict, -, -, -, -, -, -⟩ := equalities_nested plain plain ⟨[], 0, ⟨[]⟩⟩
  obtain ⟨-, hcompare, -, -, hequals, hmatch, -⟩ := equalities_nested plain real ⟨[], 0, ⟨[]⟩⟩
  obtain ⟨-, -, -, -, -, -, hkept⟩ := equalities_nested millis wide ⟨[], 0, ⟨[]⟩⟩
  rw [hreal] at hequals
  obtain ⟨⟨-, hle, -, -⟩, hmiss⟩ := hkept.mpr ⟨hmillis, hapart⟩
  exact ⟨hplain, hstrict hplain, hreal, hform, hcompare hreal, hequals, (hmatch hequals).2.2.1,
    hmiss, hle⟩

end Numeric

end RecordFilter
