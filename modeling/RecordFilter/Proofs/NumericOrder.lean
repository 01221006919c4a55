/-
# The order of numbers in units

Every number that is no NaN is a whole number of units of `2 ^ -1074` (`Number.units`), so the
order by value is the order of integers.  Two integers are compared in just this order.  Where a
binary64 number is on either side, an integer is rounded first, and rounding keeps the order
without being strict (`Number.roundedUnits_mono`): it can make two numbers equal, and it cannot turn
them round.

So an order that a comparison finds is the order of the units (`Number.units_lt_of_compare?`); it
goes from one comparison to the next, whichever kinds are compared (`Number.compare?_trans`); and
only an integer beyond `2 ^ 53` can be found equal to what it does not equal
(`Number.units_of_compare?_eq`).  Among numbers without such integers strict equality is equality
of units (`Number.strictEq_iff`).
-/
import RecordFilter.Number.Basic
import RecordFilter.Proofs.Rounding

namespace RecordFilter

namespace Binary64

theorem compare?_swap (x y : Binary64) : y.compare? x = (x.compare? y).map Ordering.swap := by
  unfold compare?
  rw [Bool.or_comm]
  split
  next => rfl
  next => rw [Option.map_some, Int.compare_swap]

theorem compare?_eq_some_iff {x y : Binary64} {o : Ordering} : x.compare? y = some o ↔
    x.isNaN = false ∧ y.isNaN = false ∧ compare x.units y.units = o := by
  unfold compare?
  cases x.isNaN <;> cases y.isNaN <;> simp

end Binary64

namespace Number

theorem compare?_swap (a b : Number) : b.compare? a = (a.compare? b).map Ordering.swap := by
  unfold compare?
  cases a.integer? <;> cases b.integer? <;>
    first
      | exact Binary64.compare?_swap ..
      | exact congrArg some (Int.compare_swap ..).symm

/-! ## 1. Units -/

/-- The exact value in units of `2 ^ -1074`. -/
def units : Number → Int
  | signed n => n.val * Binary64.one
  | unsigned n => n.val * Binary64.one
  | wide n => n.val * Binary64.one
  | real x => x.units

/-- The value that is compared with a binary64 number, in the same units. -/
def roundedUnits (a : Number) : Int := a.toBinary64.units

variable {a b c : Number} {k m n : Int}

/-- What an integer is, whatever its width. -/
theorem of_integer? (h : a.integer? = some k) :
    a.units = k * Binary64.one ∧ a.toBinary64 = .ofInt k ∧ a.isNaN = false := by
  cases a with
  | real x => simp [integer?] at h
  | signed | unsigned | wide =>
    obtain rfl := Option.some.inj h
    exact ⟨rfl, rfl, rfl⟩

theorem eq_real_of_integer? (h : a.integer? = none) : ∃ x, a = real x := by
  cases a with
  | real x => exact ⟨x, rfl⟩
  | signed | unsigned | wide => simp [integer?] at h

theorem isNaN_toBinary64 (a : Number) : a.toBinary64.isNaN = a.isNaN := by
  cases a with
  | real x => rfl
  | signed | unsigned | wide => exact Binary64.ofInt_isNaN _

/-- **Rounding keeps the order of all numbers.** -/
theorem roundedUnits_mono (ha : a.isNaN = false) (hb : b.isNaN = false) (h : a.units ≤ b.units) :
    a.roundedUnits ≤ b.roundedUnits := by
  unfold roundedUnits
  cases hm : a.integer? with
  | some m =>
    obtain ⟨hunits, hrounded, -⟩ := of_integer? hm
    rw [hunits] at h
    rw [hrounded]
    cases hn : b.integer? with
    | some n =>
      obtain ⟨hunits', hrounded', -⟩ := of_integer? hn
      rw [hunits'] at h
      rw [hrounded']
      exact Binary64.units_ofInt_mono (Int.le_of_mul_le_mul_right h Binary64.one_pos)
    | none =>
      obtain ⟨y, rfl⟩ := eq_real_of_integer? hn
      exact Binary64.ofInt_le_units hb h
  | none =>
    obtain ⟨x, rfl⟩ := eq_real_of_integer? hm
    cases hn : b.integer? with
    | some n =>
      obtain ⟨hunits', hrounded', -⟩ := of_integer? hn
      rw [hunits'] at h
      rw [hrounded']
      exact Binary64.units_le_ofInt ha h
    | none =>
      obtain ⟨y, rfl⟩ := eq_real_of_integer? hn
      exact h

/-! ## 2. What a comparison finds -/

theorem compare?_integers (hm : a.integer? = some m) (hn : b.integer? = some n) :
    a.compare? b = some (compare m n) := by
  simp only [compare?, hm, hn]

theorem compare?_rounded (h : a.integer? = none ∨ b.integer? = none) :
    a.compare? b = a.toBinary64.compare? b.toBinary64 := by
  unfold compare?
  split
  next m n hm hn => simp [hm, hn] at h
  next => rfl

/-- The order of two numbers, if there is one: that of two integers, or that after rounding. -/
theorem compare?_eq_some_iff {o : Ordering} : a.compare? b = some o ↔
    (∃ m n, a.integer? = some m ∧ b.integer? = some n ∧ compare m n = o) ∨
    (a.integer? = none ∨ b.integer? = none) ∧ a.isNaN = false ∧ b.isNaN = false ∧
      compare a.roundedUnits b.roundedUnits = o := by
  by_cases hround : a.integer? = none ∨ b.integer? = none
  · rw [compare?_rounded hround, Binary64.compare?_eq_some_iff, isNaN_toBinary64, isNaN_toBinary64]
    constructor
    · exact fun h => .inr ⟨hround, h⟩
    · rintro (⟨m, n, hm, hn, -⟩ | ⟨-, h⟩)
      · simp [hm, hn] at hround
      · exact h
  · obtain ⟨hm, hn⟩ := not_or.mp hround
    obtain ⟨m, hm⟩ := Option.ne_none_iff_exists'.mp hm
    obtain ⟨n, hn⟩ := Option.ne_none_iff_exists'.mp hn
    rw [compare?_integers hm hn]
    simp [hm, hn]

/-- **There is no order with a NaN, and with nothing else.** -/
theorem compare?_eq_none_iff : a.compare? b = none ↔ a.isNaN = true ∨ b.isNaN = true := by
  by_cases hround : a.integer? = none ∨ b.integer? = none
  · rw [compare?_rounded hround, Binary64.compare?, isNaN_toBinary64, isNaN_toBinary64]
    cases a.isNaN <;> cases b.isNaN <;> simp
  · obtain ⟨hm, hn⟩ := not_or.mp hround
    obtain ⟨m, hm⟩ := Option.ne_none_iff_exists'.mp hm
    obtain ⟨n, hn⟩ := Option.ne_none_iff_exists'.mp hn
    simp [compare?_integers hm hn, (of_integer? hm).2.2, (of_integer? hn).2.2]

theorem isNaN_of_compare? {o : Ordering} (h : a.compare? b = some o) :
    a.isNaN = false ∧ b.isNaN = false := by
  have hne : ¬ (a.isNaN = true ∨ b.isNaN = true) := fun hnan => by
    rw [compare?_eq_none_iff.mpr hnan] at h
    cases h
  simpa using hne

/-- **Whatever is found less has less units.** -/
theorem units_lt_of_compare? (h : a.compare? b = some .lt) : a.units < b.units := by
  obtain ⟨ha, hb⟩ := isNaN_of_compare? h
  rcases compare?_eq_some_iff.mp h with ⟨m, n, hm, hn, hlt⟩ | ⟨-, -, -, hlt⟩
  · rw [(of_integer? hm).1, (of_integer? hn).1]
    exact Int.mul_lt_mul_of_pos_right (Int.compare_eq_lt.mp hlt) Binary64.one_pos
  · have hrounded := Int.compare_eq_lt.mp hlt
    refine Int.lt_of_not_ge fun hle => ?_
    have := roundedUnits_mono hb ha hle
    omega

/-- **Whatever is found equal has the same units**, but for an integer beyond `2 ^ 53` beside a
binary64 number. -/
theorem units_of_compare?_eq (h : a.compare? b = some .eq) : a.units = b.units ∨
    ∃ k, 2 ^ 53 < k.natAbs ∧ (a.integer? = some k ∧ b.integer? = none ∨
      a.integer? = none ∧ b.integer? = some k) := by
  have hsmall : ∀ {c : Number} {k}, c.integer? = some k → ¬ 2 ^ 53 < k.natAbs →
      c.roundedUnits = c.units := by
    intro c k hk hle
    obtain ⟨hunits, hrounded, -⟩ := of_integer? hk
    rw [roundedUnits, hrounded, Binary64.units_ofInt (Nat.not_lt.mp hle), hunits]
  rcases compare?_eq_some_iff.mp h with ⟨m, n, hm, hn, heq⟩ | ⟨hround, -, -, heq⟩
  · rw [(of_integer? hm).1, (of_integer? hn).1, Int.compare_eq_eq.mp heq]
    exact .inl rfl
  have hrounded := Int.compare_eq_eq.mp heq
  cases hm : a.integer? with
  | some m =>
    have hn : b.integer? = none := hround.resolve_left (by simp [hm])
    obtain ⟨y, rfl⟩ := eq_real_of_integer? hn
    by_cases hbig : 2 ^ 53 < m.natAbs
    · exact .inr ⟨m, hbig, .inl ⟨rfl, rfl⟩⟩
    · rw [hsmall hm hbig] at hrounded
      exact .inl hrounded
  | none =>
    obtain ⟨x, rfl⟩ := eq_real_of_integer? hm
    cases hn : b.integer? with
    | some n =>
      by_cases hbig : 2 ^ 53 < n.natAbs
      · exact .inr ⟨n, hbig, .inr ⟨rfl, rfl⟩⟩
      · rw [hsmall hn hbig] at hrounded
        exact .inl hrounded
    | none =>
      obtain ⟨y, rfl⟩ := eq_real_of_integer? hn
      exact .inl hrounded

/-- Less is no more after rounding, and less where one side is no integer. -/
theorem roundedUnits_of_compare? (h : a.compare? b = some .lt) :
    a.roundedUnits ≤ b.roundedUnits ∧
      (a.integer? = none ∨ b.integer? = none → a.roundedUnits < b.roundedUnits) := by
  obtain ⟨ha, hb⟩ := isNaN_of_compare? h
  refine ⟨roundedUnits_mono ha hb (Int.le_of_lt (units_lt_of_compare? h)), fun hround => ?_⟩
  rcases compare?_eq_some_iff.mp h with ⟨m, n, hm, hn, -⟩ | ⟨-, -, -, hlt⟩
  · simp [hm, hn] at hround
  · exact Int.compare_eq_lt.mp hlt

/-- **Less goes on**, from one kind of number to another. -/
theorem compare?_trans (hab : a.compare? b = some .lt) (hbc : b.compare? c = some .lt) :
    a.compare? c = some .lt := by
  rw [compare?_eq_some_iff]
  by_cases hround : a.integer? = none ∨ c.integer? = none
  · -- The one that is no integer makes the comparison strict that it is part of.
    obtain ⟨hle, hlt⟩ := roundedUnits_of_compare? hab
    obtain ⟨hle', hlt'⟩ := roundedUnits_of_compare? hbc
    refine .inr ⟨hround, (isNaN_of_compare? hab).1, (isNaN_of_compare? hbc).2,
      Int.compare_eq_lt.mpr ?_⟩
    rcases hround with ha | hc
    · have := hlt (.inl ha)
      omega
    · have := hlt' (.inr hc)
      omega
  · obtain ⟨hm, hn⟩ := not_or.mp hround
    obtain ⟨m, hm⟩ := Option.ne_none_iff_exists'.mp hm
    obtain ⟨n, hn⟩ := Option.ne_none_iff_exists'.mp hn
    have hunits := Int.lt_trans (units_lt_of_compare? hab) (units_lt_of_compare? hbc)
    rw [(of_integer? hm).1, (of_integer? hn).1] at hunits
    exact .inl ⟨m, n, hm, hn, Int.compare_eq_lt.mpr
      (Int.lt_of_mul_lt_mul_right hunits (Int.le_of_lt Binary64.one_pos))⟩

/-! ## 3. Strict equality -/

/-- A signed or an unsigned integer must not be beyond `2 ^ 53`; nothing is asked of others. -/
def Exact : Number → Prop
  | signed n => n.val.natAbs ≤ 2 ^ 53
  | unsigned n => n.val.natAbs ≤ 2 ^ 53
  | wide _ | real _ => True

theorem Exact.natAbs_le (ha : a.Exact) (hwide : a.isWide = false) (hk : a.integer? = some k) :
    k.natAbs ≤ 2 ^ 53 := by
  cases a with
  | signed n | unsigned n =>
    obtain rfl := Option.some.inj hk
    exact ha
  | wide n => simp [isWide] at hwide
  | real x => simp [integer?] at hk

theorem isWide_of_integer? (h : a.integer? = none) : a.isWide = false := by
  obtain ⟨x, rfl⟩ := eq_real_of_integer? h
  rfl

theorem strictEq_eq_true_iff :
    a.strictEq b = true ↔ a.isWide = b.isWide ∧ a.compare? b = some .eq := by
  rw [strictEq, Bool.and_eq_true, beq_iff_eq, beq_iff_eq]

theorem strictEq_comm (a b : Number) : a.strictEq b = b.strictEq a := by
  rw [Bool.eq_iff_iff, strictEq_eq_true_iff, strictEq_eq_true_iff, compare?_swap a b, eq_comm]
  cases a.compare? b with
  | none => simp
  | some o => cases o <;> simp

/-- Numbers with the same units are found equal. -/
theorem compare?_eq_of_units (ha : a.isNaN = false) (hb : b.isNaN = false)
    (h : a.units = b.units) : a.compare? b = some .eq := by
  rw [compare?_eq_some_iff]
  by_cases hround : a.integer? = none ∨ b.integer? = none
  · exact .inr ⟨hround, ha, hb, Int.compare_eq_eq.mpr (Int.le_antisymm
      (roundedUnits_mono ha hb (Int.le_of_eq h)) (roundedUnits_mono hb ha (Int.le_of_eq h.symm)))⟩
  · obtain ⟨hm, hn⟩ := not_or.mp hround
    obtain ⟨m, hm⟩ := Option.ne_none_iff_exists'.mp hm
    obtain ⟨n, hn⟩ := Option.ne_none_iff_exists'.mp hn
    rw [(of_integer? hm).1, (of_integer? hn).1] at h
    have hone := Binary64.one_pos
    exact .inl ⟨m, n, hm, hn, Int.compare_eq_eq.mpr (Int.eq_of_mul_eq_mul_right (by omega) h)⟩

/-- **Strict equality is equality of units**, among numbers of one kind that are exact. -/
theorem strictEq_iff (ha : a.Exact) (hb : b.Exact) : a.strictEq b = true ↔
    a.isWide = b.isWide ∧ a.isNaN = false ∧ b.isNaN = false ∧ a.units = b.units := by
  rw [strictEq_eq_true_iff]
  refine and_congr_right fun hwide => ⟨fun h => ?_, fun h => compare?_eq_of_units h.1 h.2.1 h.2.2⟩
  refine ⟨(isNaN_of_compare? h).1, (isNaN_of_compare? h).2, ?_⟩
  rcases units_of_compare?_eq h with heq | ⟨k, hbig, ⟨hk, hreal⟩ | ⟨hreal, hk⟩⟩
  · exact heq
  · have hle := ha.natAbs_le (hwide.trans (isWide_of_integer? hreal)) hk
    omega
  · have hle := hb.natAbs_le (hwide.symm.trans (isWide_of_integer? hreal)) hk
    omega

theorem strictEq_self_iff (a : Number) : a.strictEq a = true ↔ a.isNaN = false := by
  rw [strictEq_eq_true_iff]
  exact ⟨fun h => (isNaN_of_compare? h.2).1, fun h => ⟨rfl, compare?_eq_of_units h h rfl⟩⟩

end Number

end RecordFilter
