/-
# Timestamps in the order of time

A conversion into a timestamp loses what is below a millisecond, and beyond either end of the range
it saturates.  So points in time that differ may share a timestamp, but two timestamps are never in
the wrong order.  The reason is the same for both conversions: a count of seconds is converted as
the instant that it names (`Timestamp.ofSeconds_eq`), and an instant as its whole milliseconds,
brought into the range (`Timestamp.ofInstant_eq`), and both steps keep the order of integers.

Timestamps are compared as integers.  So a comparison of a field with a bound, both converted, can
miss a difference and cannot invent one: `Timestamp.conversions_keepOrder`.
-/
import RecordFilter.Proofs.Complements

namespace RecordFilter

/-! ## 1. Orders -/

/-- Timestamps are in the order of their milliseconds. -/
instance : LE Timestamp := ⟨fun s t => s.millis.val ≤ t.millis.val⟩

/-- Instants are in the order of their offsets from the epoch. -/
instance : LE Instant := ⟨fun s t => s.nanos ≤ t.nanos⟩

/-- The instant that a count of seconds names. -/
def Instant.ofSeconds (seconds : Signed64) : Instant := ⟨seconds.val * 1000000000⟩

theorem Instant.ofSeconds_le_iff {a b : Signed64} : ofSeconds a ≤ ofSeconds b ↔ a.val ≤ b.val := by
  change a.val * 1000000000 ≤ b.val * 1000000000 ↔ a.val ≤ b.val
  omega

theorem Signed64.clamp_mono {m n : Int} (h : m ≤ n) : (clamp m).val ≤ (clamp n).val := by
  simp only [clamp, BoundedInt.clamp_val]
  omega

/-! ## 2. What conversions give -/

namespace Timestamp

/-- From the epoch on, the whole milliseconds are those of the length of time since. -/
theorem tdiv_of_nonneg {nanos : Int} (h : 0 ≤ nanos) :
    nanos.tdiv 1000000 = ((nanos.natAbs / 1000000 : Nat) : Int) := by
  rw [Int.ofNat_tdiv, Int.natAbs_of_nonneg h]
  rfl

/-- Before the epoch they are those of the length of time until then, negated. -/
theorem tdiv_of_neg {nanos : Int} (h : nanos < 0) :
    nanos.tdiv 1000000 = -((nanos.natAbs / 1000000 : Nat) : Int) := by
  rw [Int.ofNat_tdiv, ← Int.neg_tdiv, ← Int.eq_neg_natAbs_of_nonpos (Int.le_of_lt h)]
  rfl

/-- The negation of a length of time that is in the range is in the range. -/
theorem ofInt?_neg {length : Nat} {millis : Signed64}
    (h : BoundedInt.ofInt? (length : Int) = some millis) :
    BoundedInt.ofInt? (-millis.val) = some (Signed64.clamp (-millis.val)) := by
  have hlength := BoundedInt.ofInt?_eq_some_iff.mp h
  have hle := millis.le_hi
  rw [BoundedInt.ofInt?_eq_some_iff, Signed64.clamp, BoundedInt.clamp_val]
  omega

/-- **An instant is converted to its whole milliseconds**, toward zero, brought into the range. -/
theorem ofInstant_eq (t : Instant) : ofInstant t = ⟨.clamp (t.nanos.tdiv 1000000)⟩ := by
  simp only [ofInstant]
  -- Beyond the range, both the length of time and what it stands for are nearest to the same end.
  have hbeyond : ∀ {length : Nat}, (BoundedInt.ofInt? (length : Int) : Option Signed64) = none →
      0x7fffffffffffffff < (length : Int) := fun h => by
    have := BoundedInt.ofInt?_eq_none_iff.mp h
    omega
  split
  next h =>
    rw [tdiv_of_nonneg h]
    split
    next millis hmillis =>
      rw [← BoundedInt.ofInt?_eq_some_iff.mp hmillis]
      exact congrArg mk (BoundedInt.clamp_of_mem _ millis).symm
    next hnone =>
      have := hbeyond hnone
      refine congrArg mk (BoundedInt.ext_val ?_)
      simp only [Signed64.clamp, BoundedInt.clamp_val]
      omega
  next h =>
    rw [tdiv_of_neg (Int.not_le.mp h)]
    split
    next millis hmillis => rw [BoundedInt.ofInt?_eq_some_iff.mp hmillis]
    next hnone =>
      have := hbeyond hnone
      refine congrArg mk (BoundedInt.ext_val ?_)
      simp only [Signed64.clamp, BoundedInt.clamp_val]
      omega

/-- **Seconds are converted as the instant that they name.** -/
theorem ofSeconds_eq (a : Signed64) : ofSeconds a = ofInstant (.ofSeconds a) := by
  have hmillis : a.val * 1000000000 = a.val * 1000 * 1000000 := by omega
  rw [ofInstant_eq, Instant.ofSeconds, hmillis, Int.mul_tdiv_cancel _ (by decide), ofSeconds]

theorem ofInstant_mono {s t : Instant} (h : s ≤ t) : ofInstant s ≤ ofInstant t := by
  rw [ofInstant_eq, ofInstant_eq]
  exact Signed64.clamp_mono (Int.tdiv_le_tdiv (by decide) h)

theorem ofSeconds_mono {a b : Signed64} (h : a.val ≤ b.val) : ofSeconds a ≤ ofSeconds b := by
  rw [ofSeconds_eq, ofSeconds_eq]
  exact ofInstant_mono (Instant.ofSeconds_le_iff.mpr h)

/-- Seconds come back unless they are so many that the timestamp is at an end of its range. -/
theorem seconds_ofSeconds (a : Signed64) :
    (ofSeconds a).seconds = max (-9223372036854775) (min a.val 9223372036854775) := by
  have hmillis : (ofSeconds a).millis.val =
      max (-0x8000000000000000) (min (a.val * 1000) 0x7fffffffffffffff) := rfl
  rw [seconds, hmillis]
  rcases Int.lt_or_le 9223372036854775 a.val with habove | hle
  · rw [show max (-0x8000000000000000) (min (a.val * 1000) 0x7fffffffffffffff) =
      (0x7fffffffffffffff : Int) by omega]
    have hend : (0x7fffffffffffffff : Int).tdiv 1000 = 9223372036854775 := by decide
    omega
  · rcases Int.lt_or_le a.val (-9223372036854775) with hbelow | hge
    · rw [show max (-0x8000000000000000) (min (a.val * 1000) 0x7fffffffffffffff) =
        (-0x8000000000000000 : Int) by omega]
      have hend : (-0x8000000000000000 : Int).tdiv 1000 = -9223372036854775 := by decide
      omega
    · rw [show max (-0x8000000000000000) (min (a.val * 1000) 0x7fffffffffffffff) =
        a.val * 1000 by omega, Int.mul_tdiv_cancel _ (by decide)]
      omega

/-! ## 3. Fields and bounds -/

section Comparisons

variable {s t : Timestamp}

theorem compare?_eq (s t : Timestamp) :
    (Numeric.timestamp s).compare? (.timestamp t) = some (compare s.millis.val t.millis.val) := rfl

/-- A timestamp that is not later passes no `>` and every `≤`. -/
theorem ordered_of_le (h : s ≤ t) :
    Conditions.ordered .greaterThan (.timestamp s) (.timestamp t) = false ∧
      Conditions.ordered .lessThanOrEqual (.timestamp s) (.timestamp t) = true := by
  have hnot : compare s.millis.val t.millis.val ≠ .gt := fun hgt =>
    Int.not_lt.mpr h (Int.compare_eq_gt.mp hgt)
  unfold Conditions.ordered
  rw [compare?_eq]
  cases ho : compare s.millis.val t.millis.val with
  | gt => exact absurd ho hnot
  | lt | eq => exact ⟨rfl, rfl⟩

/-- One that is not earlier passes no `<` and every `≥`. -/
theorem ordered_of_ge (h : t ≤ s) :
    Conditions.ordered .lessThan (.timestamp s) (.timestamp t) = false ∧
      Conditions.ordered .greaterThanOrEqual (.timestamp s) (.timestamp t) = true := by
  have hnot : compare s.millis.val t.millis.val ≠ .lt := fun hlt =>
    Int.not_lt.mpr h (Int.compare_eq_lt.mp hlt)
  unfold Conditions.ordered
  rw [compare?_eq]
  cases ho : compare s.millis.val t.millis.val with
  | lt => exact absurd ho hnot
  | gt | eq => exact ⟨rfl, rfl⟩

end Comparisons

/-- On a field that holds the one timestamp, the comparisons with the other as their bound have the
verdicts that a point in time calls for which is not later, or not earlier, than the bound's. -/
def KeepsOrder (field bound : Timestamp) (notLater notEarlier : Prop) : Prop :=
  ∀ (name : String) (scope : Scope), scope.record.get? name = some (.timestamp field) →
    let verdict := fun s : Setting => Clause.outcomeOf [s] name scope
    (notLater → verdict (.greaterThan (.timestamp bound)) = .ok false ∧
      verdict (.lessThanOrEqual (.timestamp bound)) = .ok true) ∧
    (notEarlier → verdict (.lessThan (.timestamp bound)) = .ok false ∧
      verdict (.greaterThanOrEqual (.timestamp bound)) = .ok true)

/-- Whatever implies the order of the timestamps is kept. -/
theorem keepsOrder_of_le {field bound : Timestamp} {notLater notEarlier : Prop}
    (hle : notLater → field ≤ bound) (hge : notEarlier → bound ≤ field) :
    KeepsOrder field bound notLater notEarlier := by
  intro name scope hfield verdict
  have hverdict : ∀ c : Comparison, verdict (c.setting (.timestamp bound)) =
      .ok (Conditions.ordered c.operator (.timestamp field) (.timestamp bound)) := fun c =>
    Clause.outcomeOf_comparison hfield c (.timestamp bound)
  refine ⟨fun h => ?_, fun h => ?_⟩
  · obtain ⟨hgt, hle⟩ := ordered_of_le (hle h)
    exact ⟨(hverdict .greaterThan).trans (congrArg _ hgt),
      (hverdict .lessThanOrEqual).trans (congrArg _ hle)⟩
  · obtain ⟨hlt, hge⟩ := ordered_of_ge (hge h)
    exact ⟨(hverdict .lessThan).trans (congrArg _ hlt),
      (hverdict .greaterThanOrEqual).trans (congrArg _ hge)⟩

/-- **Conversions saturate and keep the order of time.**  An instant becomes its milliseconds,
toward zero and brought into the range; before the epoch, where the length of time is negated, the
negation stays in the range.  Seconds become a thousand times as many milliseconds, brought into
the range, and come back but for the ends of it.  What is not later has no later timestamp, and
where field and bound are converted alike, a comparison never contradicts the order of time. -/
theorem conversions_keepOrder (s t : Instant) (a b : Signed64) :
    (s ≤ t → ofInstant s ≤ ofInstant t) ∧
    (ofInstant t).millis.val =
      max (-0x8000000000000000) (min (t.nanos.tdiv 1000000) 0x7fffffffffffffff) ∧
    (t.nanos < 0 → ∀ millis : Signed64,
      BoundedInt.ofInt? ((t.nanos.natAbs / 1000000 : Nat) : Int) = some millis →
        BoundedInt.ofInt? (-millis.val) = some (ofInstant t).millis) ∧
    (a.val ≤ b.val → ofSeconds a ≤ ofSeconds b) ∧
    (ofSeconds a).millis.val =
      max (-0x8000000000000000) (min (1000 * a.val) 0x7fffffffffffffff) ∧
    (ofSeconds a).seconds = max (-9223372036854775) (min a.val 9223372036854775) ∧
    KeepsOrder (ofInstant s) (ofInstant t) (s ≤ t) (t ≤ s) ∧
    KeepsOrder (ofSeconds a) (ofSeconds b) (a.val ≤ b.val) (b.val ≤ a.val) := by
  refine ⟨ofInstant_mono, by rw [ofInstant_eq]; rfl, fun hneg millis hmillis => ?_, ofSeconds_mono,
    by rw [Int.mul_comm]; rfl, seconds_ofSeconds a, keepsOrder_of_le ofInstant_mono ofInstant_mono,
    keepsOrder_of_le ofSeconds_mono ofSeconds_mono⟩
  have hlength := BoundedInt.ofInt?_eq_some_iff.mp hmillis
  rw [ofInt?_neg hmillis, ofInstant_eq, tdiv_of_neg hneg, hlength]

/-- Two instants before the epoch, a millisecond and a half and a nanosecond, and two counts of
seconds, the last that comes back and the first that does not.  The earlier of each pair passes no
`>` that has the later for its bound. -/
theorem conversions_keepOrder_ends :
    let s : Instant := ⟨-1500000⟩
    let t : Instant := ⟨-1⟩
    let a : Signed64 := ⟨9223372036854775, by decide, by decide⟩
    let b : Signed64 := ⟨9223372036854776, by decide, by decide⟩
    let zero : Signed64 := ⟨0, by decide, by decide⟩
    let scope : Scope := ⟨[], 0, ⟨[("seen", .timestamp (ofInstant s)),
      ("due", .timestamp (ofSeconds a))]⟩⟩
    (s ≤ t ∧ ofInstant s ≤ ofInstant t) ∧ (ofInstant s).millis.val = -1 ∧
    (BoundedInt.ofInt? ((t.nanos.natAbs / 1000000 : Nat) : Int) = some zero ∧
      BoundedInt.ofInt? (-zero.val) = some (ofInstant t).millis) ∧
    (a.val ≤ b.val ∧ ofSeconds a ≤ ofSeconds b) ∧
    (ofSeconds b).millis.val = 0x7fffffffffffffff ∧ (ofSeconds b).seconds = a.val ∧
    Clause.outcomeOf [.greaterThan (.timestamp (ofInstant t))] "seen" scope = .ok false ∧
    Clause.outcomeOf [.lessThanOrEqual (.timestamp (ofSeconds b))] "due" scope = .ok true := by
  intro s t a b zero scope
  have hinstants : s ≤ t := by
    change (-1500000 : Int) ≤ -1
    decide
  have hseconds : a.val ≤ b.val := by decide
  have hzero : BoundedInt.ofInt? ((t.nanos.natAbs / 1000000 : Nat) : Int) = some zero := by decide
  obtain ⟨hmono, -, hneg, hmono', -, -, hseen, hdue⟩ := conversions_keepOrder s t a b
  obtain ⟨-, htruncated, -, -, hsaturated, hback, -, -⟩ := conversions_keepOrder t s b a
  refine ⟨⟨hinstants, hmono hinstants⟩, htruncated.trans (by decide),
    ⟨hzero, hneg (by decide) zero hzero⟩, ⟨hseconds, hmono' hseconds⟩,
    hsaturated.trans (by decide), hback.trans (by decide), ?_, ?_⟩
  · exact ((hseen "seen" scope rfl).1 hinstants).1
  · exact ((hdue "due" scope rfl).1 hseconds).2

end Timestamp

end RecordFilter
