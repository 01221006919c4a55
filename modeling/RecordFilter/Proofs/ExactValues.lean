/-
# Comparisons and exact values

What a number stands for is an integer, a real number or one of the two infinities; a NaN stands for
nothing (`Number.value?`), and a timestamp for the integer of its milliseconds.  This is said here
without units and without rounding, in the extended reals.  The order of the values is the order of
the units (`Binary64.ofUnits_strictMono`), the units of the two infinities being the first ones
beyond all that is finite.

Main statement: the order that a comparison finds is the order of the values, and it finds two
values equal that are not only where a large integer is compared with a binary64 number
(`Numeric.compare?_sound`).
-/
import Mathlib.Data.EReal.Basic
import RecordFilter.Numeric
import RecordFilter.Proofs.NumericOrder

namespace RecordFilter

/-! ## 1. Exact values -/

/-- The value of a number that is no NaN. -/
noncomputable def Binary64.value (x : Binary64) : EReal :=
  if x.isFinite then ((x.units / 2 ^ 1074 : ℝ) : EReal) else if x.negative then ⊥ else ⊤

/-- What a number stands for. -/
noncomputable def Number.value? : Number → Option EReal
  | signed n => some ((n.val : ℝ) : EReal)
  | unsigned n => some ((n.val : ℝ) : EReal)
  | wide n => some ((n.val : ℝ) : EReal)
  | real x => if x.isNaN then none else some x.value

/-- What a numeric stands for: a timestamp for its milliseconds. -/
noncomputable def Numeric.value? : Numeric → Option EReal
  | number n => n.value?
  | timestamp t => some ((t.millis.val : ℝ) : EReal)

/-- The integer that a numeric is, if it is one. -/
def Numeric.integer? : Numeric → Option Int
  | number n => n.integer?
  | timestamp t => some t.millis.val

/-- Is the numeric a NaN? -/
def Numeric.isNaN : Numeric → Bool
  | number n => n.isNaN
  | timestamp _ => false

/-! ## 2. Values by units -/

namespace Binary64

/-- The units of the greater infinity. -/
def top : Int := unitsOfMagnitude infinityMagnitude

theorem cast_one : (one : ℝ) = 2 ^ 1074 := by
  -- Said of every exponent, so that the power is not computed.
  have hpow : ∀ k : Nat, (((2 ^ k : Nat) : Int) : ℝ) = 2 ^ k := fun k => by push_cast; rfl
  exact hpow 1074

/-- Every integer that a number can be is far below the infinities. -/
theorem mul_one_lt_top {n : Nat} (h : n ≤ 2 ^ 127) : n * one < top := by
  have hbinades : ∀ j k : Nat, 127 + j < 52 + k → n <<< j < leadingBit * 2 ^ k := by
    intro j k hjk
    calc n <<< j = n * 2 ^ j := Nat.shiftLeft_eq n j
      _ ≤ 2 ^ 127 * 2 ^ j := Nat.mul_le_mul_right _ h
      _ = 2 ^ (127 + j) := (Nat.pow_add 2 127 j).symm
      _ < 2 ^ (52 + k) := Nat.pow_lt_pow_right Nat.one_lt_two hjk
      _ = leadingBit * 2 ^ k := Nat.pow_add 2 52 k
  have hinfinity : infinityMagnitude = 2046 * leadingBit + leadingBit := by decide
  have htop : unitsOfMagnitude infinityMagnitude = leadingBit * 2 ^ 2046 := by
    rw [hinfinity]
    exact unitsOfMagnitude_add (by decide) (.inr (Nat.le_refl _))
  rw [← cast_shiftLeft, top, htop]
  exact Int.ofNat_lt.mpr (hbinades 1074 2046 (by decide))

theorem top_pos : 0 < top := by
  have h := mul_one_lt_top (Nat.zero_le _)
  rwa [Int.natCast_zero, Int.zero_mul] at h

/-- The value of units. -/
noncomputable def ofUnits (u : Int) : EReal :=
  if top ≤ u then ⊤ else if u ≤ -top then ⊥ else ((u / 2 ^ 1074 : ℝ) : EReal)

theorem ofUnits_strictMono {u v : Int} (hu : -top ≤ u) (hv : v ≤ top) (h : u < v) :
    ofUnits u < ofUnits v := by
  have hpos : (0 : ℝ) < 2 ^ 1074 := pow_pos two_pos 1074
  unfold ofUnits
  rw [if_neg (by omega)]
  by_cases hbot : u ≤ -top
  · rw [if_pos hbot]
    split
    next => exact bot_lt_top
    next =>
      rw [if_neg (by omega)]
      exact EReal.bot_lt_coe _
  · rw [if_neg hbot]
    split
    next => exact EReal.coe_lt_top _
    next =>
      rw [if_neg (by omega), EReal.coe_lt_coe_iff]
      exact div_lt_div_of_pos_right (Int.cast_lt.mpr h) hpos

theorem natAbs_mul_one_lt_top {n : Int} (h : n.natAbs ≤ 2 ^ 127) :
    ((n * one).natAbs : Int) < top := by
  have hone : (one.natAbs : Int) = one := Int.natAbs_of_nonneg (Int.le_of_lt one_pos)
  calc ((n * one).natAbs : Int) = n.natAbs * one.natAbs := by rw [Int.natAbs_mul, Int.natCast_mul]
    _ = n.natAbs * one := by rw [hone]
    _ < top := mul_one_lt_top h

theorem ofUnits_integer {n : Int} (h : n.natAbs ≤ 2 ^ 127) :
    ofUnits (n * one) = ((n : ℝ) : EReal) := by
  have hlt := natAbs_mul_one_lt_top h
  have hpow : ((2 : ℝ) ^ 1074) ≠ 0 := pow_ne_zero _ two_ne_zero
  rw [ofUnits, if_neg (by omega), if_neg (by omega), Int.cast_mul, cast_one, mul_div_assoc,
    div_self hpow, mul_one]

theorem natAbs_units_le {x : Binary64} (hx : x.isNaN = false) : (x.units.natAbs : Int) ≤ top := by
  have hmagnitude : x.magnitude ≤ infinityMagnitude := Nat.not_lt.mp (of_decide_eq_false hx)
  rw [natAbs_units, top]
  exact Int.ofNat_le.mpr (unitsOfMagnitude_strictMono.monotone hmagnitude)

/-- Finite is what has less units than an infinity. -/
theorem isFinite_iff (x : Binary64) : x.isFinite = true ↔ (x.units.natAbs : Int) < top := by
  rw [natAbs_units, top, Int.ofNat_lt, unitsOfMagnitude_strictMono.lt_iff_lt]
  exact decide_eq_true_iff

theorem value_eq {x : Binary64} (hx : x.isNaN = false) : x.value = ofUnits x.units := by
  have hle := natAbs_units_le hx
  unfold value ofUnits
  by_cases hfinite : x.isFinite = true
  · have hlt := (isFinite_iff x).mp hfinite
    rw [if_pos hfinite, if_neg (by omega), if_neg (by omega)]
  · have heq : (x.units.natAbs : Int) = top :=
      Int.le_antisymm hle (Int.not_lt.mp fun hlt => hfinite ((isFinite_iff x).mpr hlt))
    have htop := top_pos
    rw [if_neg hfinite]
    by_cases hnegative : x.negative = true
    · have hunits : x.units = -x.unitsAbs := if_pos hnegative
      rw [if_pos hnegative, if_neg (by omega), if_pos (by omega)]
    · have hunits : x.units = x.unitsAbs := if_neg hnegative
      rw [if_neg hnegative, if_pos (by omega)]

end Binary64

namespace Number

variable {a b : Number}

theorem value?_of_integer? {k : Int} (h : a.integer? = some k) :
    a.value? = some ((k : ℝ) : EReal) ∧ k.natAbs ≤ 2 ^ 127 := by
  cases a with
  | real x => simp [integer?] at h
  | signed n | unsigned n | wide n =>
    obtain rfl := Option.some.inj h
    have := n.lo_le
    have := n.le_hi
    exact ⟨rfl, by omega⟩

/-- **The value of a number is that of its units.** -/
theorem value?_eq (ha : a.isNaN = false) : a.value? = some (Binary64.ofUnits a.units) ∧
    -Binary64.top ≤ a.units ∧ a.units ≤ Binary64.top := by
  cases hk : a.integer? with
  | some k =>
    obtain ⟨hvalue, hbound⟩ := value?_of_integer? hk
    have hlt := Binary64.natAbs_mul_one_lt_top hbound
    rw [(of_integer? hk).1, Binary64.ofUnits_integer hbound]
    exact ⟨hvalue, by omega, by omega⟩
  | none =>
    obtain ⟨x, rfl⟩ := eq_real_of_integer? hk
    have hx : x.isNaN = false := ha
    have hle := Binary64.natAbs_units_le hx
    refine ⟨?_, ?_, ?_⟩
    · rw [value?, if_neg (by simp [hx]), Binary64.value_eq hx]
      rfl
    · change -Binary64.top ≤ x.units
      omega
    · change x.units ≤ Binary64.top
      omega

/-- **The order of the units is the order of the values.** -/
theorem value?_lt (ha : a.isNaN = false) (hb : b.isNaN = false) (h : a.units < b.units) :
    ∃ p q, a.value? = some p ∧ b.value? = some q ∧ p < q := by
  obtain ⟨hp, hlow, -⟩ := value?_eq ha
  obtain ⟨hq, -, hhigh⟩ := value?_eq hb
  exact ⟨_, _, hp, hq, Binary64.ofUnits_strictMono hlow hhigh h⟩

end Number

/-! ## 3. Numerics -/

namespace Numeric

theorem value?_normalize (a : Numeric) : a.normalize.value? = a.value? := by
  cases a <;> rfl

theorem integer?_normalize (a : Numeric) : a.normalize.integer? = a.integer? := by
  cases a <;> rfl

theorem isNaN_normalize (a : Numeric) : a.normalize.isNaN = a.isNaN := by
  cases a <;> rfl

/-- **Comparison is sound for exact values.**  Turning the two sides round turns the order round;
there is none exactly where one side is a NaN.  What is found less stands for less, the infinities
included, and what is found greater for more; what is found equal stands for the same, but for an
integer of a magnitude beyond `2 ^ 53` on one side and a binary64 number on the other.  Integers and
timestamps have just the order of the integers, and less goes on from one comparison to the next,
whatever the kinds of the three. -/
theorem compare?_sound :
    (∀ a b : Numeric, b.compare? a = (a.compare? b).map Ordering.swap) ∧
    (∀ a b : Numeric, a.compare? b = none ↔ a.isNaN = true ∨ b.isNaN = true) ∧
    (∀ a b : Numeric, a.compare? b = some .lt →
      ∃ p q, a.value? = some p ∧ b.value? = some q ∧ p < q) ∧
    (∀ a b : Numeric, a.compare? b = some .gt →
      ∃ p q, a.value? = some p ∧ b.value? = some q ∧ q < p) ∧
    (∀ a b : Numeric, a.compare? b = some .eq →
      (∃ p, a.value? = some p ∧ b.value? = some p) ∨
      ∃ k, 2 ^ 53 < k.natAbs ∧ (a.integer? = some k ∧ b.integer? = none ∨
        a.integer? = none ∧ b.integer? = some k)) ∧
    (∀ (a b : Numeric) m n, a.integer? = some m → b.integer? = some n →
      a.compare? b = some (compare m n)) ∧
    ∀ a b c : Numeric, a.compare? b = some .lt → b.compare? c = some .lt →
      a.compare? c = some .lt := by
  have hswap : ∀ a b : Numeric, b.compare? a = (a.compare? b).map Ordering.swap :=
    fun a b => Number.compare?_swap a.normalize b.normalize
  have hless : ∀ a b : Numeric, a.compare? b = some .lt →
      ∃ p q, a.value? = some p ∧ b.value? = some q ∧ p < q := by
    intro a b h
    obtain ⟨ha, hb⟩ := Number.isNaN_of_compare? h
    rw [← value?_normalize a, ← value?_normalize b]
    exact Number.value?_lt ha hb (Number.units_lt_of_compare? h)
  refine ⟨hswap, fun a b => ?_, hless, fun a b h => ?_, fun a b h => ?_,
    fun a b m n hm hn => ?_, fun a b c hab hbc => Number.compare?_trans hab hbc⟩
  · rw [← isNaN_normalize a, ← isNaN_normalize b]
    exact Number.compare?_eq_none_iff
  · have hturned : b.compare? a = some .lt := by rw [hswap a b, h]; rfl
    obtain ⟨q, p, hq, hp, hlt⟩ := hless b a hturned
    exact ⟨p, q, hp, hq, hlt⟩
  · obtain ⟨ha, hb⟩ := Number.isNaN_of_compare? h
    rw [← value?_normalize a, ← value?_normalize b, ← integer?_normalize a, ← integer?_normalize b]
    refine (Number.units_of_compare?_eq h).imp_left fun hunits => ?_
    have hp := (Number.value?_eq ha).1
    rw [hunits] at hp
    exact ⟨_, hp, (Number.value?_eq hb).1⟩
  · rw [← integer?_normalize a] at hm
    rw [← integer?_normalize b] at hn
    exact Number.compare?_integers hm hn

/-- A timestamp, a fraction and an infinity, each less than the next. -/
theorem compare?_sound_infinity :
    let a : Numeric := .timestamp ⟨⟨2 ^ 53 + 1, by decide, by decide⟩⟩
    let b : Numeric := .number (.real ⟨0x4340000000000001⟩)
    let c : Numeric := .number (.real ⟨0x7ff0000000000000⟩)
    a.compare? b = some .lt ∧ b.compare? c = some .lt ∧ a.compare? c = some .lt ∧
      ∃ p q, a.value? = some p ∧ c.value? = some q ∧ p < q := by
  intro a b c
  have hab : a.compare? b = some .lt := by decide +kernel
  have hbc : b.compare? c = some .lt := by decide +kernel
  obtain ⟨_, _, hless, _, _, _, htrans⟩ := compare?_sound
  exact ⟨hab, hbc, htrans a b c hab hbc, hless a c (htrans a b c hab hbc)⟩

end Numeric

end RecordFilter
