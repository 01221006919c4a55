/-
# Integers as binary64 numbers

The binary64 number nearest to an integer is never a NaN, it grows with the integer, and up to
`2 ^ 53` it is the integer itself (`Binary64.ofInt_isNaN`, `Binary64.units_ofInt_mono`,
`Binary64.units_ofInt`).

The magnitude of a number counts the numbers from zero upwards: after each `leadingBit` of them the
step from one to the next doubles (`Binary64.unitsOfMagnitude`).  Rounding picks a step, by how many
bits it drops, and counts in it.  The count may come out as one full binade more than there is room
for; it is then the first magnitude of the next step, which has the same units
(`Binary64.unitsOfMagnitude_add`).  That the result grows with the fraction is seen step by step in
the same way, and a fraction that is a whole number of steps is not changed.

Every number is a whole number of steps itself, so rounding never moves an integer past a number:
one that is not above a number is not above it rounded, and the same below
(`Binary64.ofInt_le_units`, `Binary64.units_le_ofInt`).
-/
import Mathlib.Algebra.Group.Nat.Defs
import Mathlib.Order.Monotone.Basic
import RecordFilter.Number.Binary64

namespace RecordFilter

namespace Binary64

/-! ## 1. The nearest whole number -/

section Nearest

variable {num num' den m : Nat}

theorem divNearest_cases (num den : Nat) :
    divNearest num den = num / den ∨ divNearest num den = num / den + 1 := by
  unfold divNearest
  dsimp only
  split
  next => exact .inl rfl
  next => exact .inr rfl

theorem le_divNearest (hden : 0 < den) (h : m * den ≤ num) : m ≤ divNearest num den := by
  have hquotient : m ≤ num / den := (Nat.le_div_iff_mul_le hden).mpr h
  rcases divNearest_cases num den with heq | heq <;> omega

theorem divNearest_le (hden : 0 < den) (h : num < m * den) : divNearest num den ≤ m := by
  have hquotient : num / den < m := (Nat.div_lt_iff_lt_mul hden).mpr h
  rcases divNearest_cases num den with heq | heq <;> omega

theorem divNearest_mono (hden : 0 < den) (h : num ≤ num') :
    divNearest num den ≤ divNearest num' den := by
  rcases (Nat.div_le_div_right h : num / den ≤ num' / den).lt_or_eq with hlt | heq
  · have hup : num < num' / den * den :=
      Nat.lt_of_lt_of_le (Nat.lt_div_mul_add hden) (by
        have := Nat.mul_le_mul_right den (Nat.succ_le_of_lt hlt)
        rwa [Nat.succ_mul] at this)
    exact Nat.le_trans (divNearest_le hden hup) (le_divNearest hden (Nat.div_mul_le_self num' den))
  · -- The same quotient: the remainder has grown, and what was rounded up still is.
    have hremainder : num % den ≤ num' % den := by
      have hnum := Nat.div_add_mod num den
      have hnum' := Nat.div_add_mod num' den
      rw [heq] at hnum
      omega
    unfold divNearest
    dsimp only
    rw [heq]
    split <;> split <;> simp_all
    omega

theorem divNearest_mul (hden : 0 < den) : divNearest (m * den) den = m := by
  simp [divNearest, Nat.mul_div_cancel m hden, hden]

end Nearest

/-! ## 2. Units by magnitude -/

/-- The units of the numbers of a magnitude. -/
def unitsOfMagnitude (magnitude : Nat) : Nat :=
  match magnitude / leadingBit with
  | 0 => magnitude % leadingBit
  | e + 1 => (leadingBit + magnitude % leadingBit) <<< e

theorem unitsAbs_eq (x : Binary64) : x.unitsAbs = unitsOfMagnitude x.magnitude := rfl

/-- A step of size `2 ^ shift` is counted from `leadingBit` to twice that, and the last count is the
first of the next step. -/
theorem unitsOfMagnitude_add {shift count : Nat} (hcount : count ≤ 2 * leadingBit)
    (hfull : shift = 0 ∨ leadingBit ≤ count) :
    unitsOfMagnitude (shift * leadingBit + count) = count * 2 ^ shift := by
  have hpos : 0 < leadingBit := by decide
  have hsplit : ∀ {e f}, f < leadingBit → (e * leadingBit + f) / leadingBit = e ∧
      (e * leadingBit + f) % leadingBit = f := by
    intro e f hf
    rw [Nat.mul_comm, Nat.mul_add_div hpos, Nat.mul_add_mod, Nat.div_eq_of_lt hf,
      Nat.mod_eq_of_lt hf]
    exact ⟨rfl, rfl⟩
  have hmagnitude : ∀ {e f}, f < leadingBit →
      unitsOfMagnitude ((e + 1) * leadingBit + f) = (leadingBit + f) * 2 ^ e := by
    intro e f hf
    rw [unitsOfMagnitude, (hsplit hf).1, (hsplit hf).2]
    exact Nat.shiftLeft_eq ..
  by_cases hsmall : count < leadingBit
  · obtain rfl : shift = 0 := hfull.resolve_right (Nat.not_le.mpr hsmall)
    rw [unitsOfMagnitude, (hsplit hsmall).1, (hsplit hsmall).2]
    exact (Nat.mul_one count).symm
  by_cases hlast : count = 2 * leadingBit
  · have hnext : shift * leadingBit + count = (shift + 1 + 1) * leadingBit + 0 := by
      rw [hlast, Nat.succ_mul (shift + 1), Nat.succ_mul shift]
      omega
    rw [hnext, hmagnitude hpos, hlast, Nat.pow_succ, Nat.add_zero, Nat.mul_comm 2, Nat.mul_assoc,
      Nat.mul_comm 2]
  · obtain ⟨f, rfl⟩ := Nat.exists_eq_add_of_le (Nat.not_lt.mp hsmall)
    have hsame : shift * leadingBit + (leadingBit + f) = (shift + 1) * leadingBit + f := by
      rw [Nat.add_mul]
      omega
    rw [hsame, hmagnitude (by omega)]

/-- Every magnitude is counted in one of the steps. -/
theorem exists_count (magnitude : Nat) : ∃ shift count, count < 2 * leadingBit ∧
    (shift = 0 ∨ leadingBit ≤ count) ∧ magnitude = shift * leadingBit + count := by
  have hpos : 0 < leadingBit := by decide
  have hmod := Nat.mod_lt magnitude hpos
  have hdiv := Nat.div_add_mod magnitude leadingBit
  cases he : magnitude / leadingBit with
  | zero => exact ⟨0, magnitude % leadingBit, by omega, .inl rfl, by rw [he] at hdiv; omega⟩
  | succ e =>
    refine ⟨e, leadingBit + magnitude % leadingBit, by omega, .inr (by omega), ?_⟩
    rw [he, Nat.mul_succ, Nat.mul_comm] at hdiv
    omega

/-- **Magnitudes are ordered as the units are.** -/
theorem unitsOfMagnitude_strictMono : StrictMono unitsOfMagnitude := by
  refine strictMono_nat_of_lt_succ fun magnitude => ?_
  obtain ⟨shift, count, hcount, hfull, rfl⟩ := exists_count magnitude
  rw [Nat.add_assoc, unitsOfMagnitude_add (by omega) hfull,
    unitsOfMagnitude_add (by omega) (hfull.imp_right (by omega))]
  exact Nat.mul_lt_mul_of_pos_right (Nat.lt_succ_self count) (Nat.two_pow_pos shift)

/-! ## 3. Rounding fractions -/

/-- How many bits of a fraction, in units, are rounded away. -/
def roundingShift (num den : Nat) : Nat := Nat.log2 (num / den) + 1 - 53

/-- The magnitude of a fraction in units, were there no last binade. -/
def roundedMagnitude (num den : Nat) : Nat :=
  roundingShift num den * leadingBit + divNearest num (den <<< roundingShift num den)

theorem magnitudeOfRatio_eq (num den : Nat) :
    magnitudeOfRatio num den = min (roundedMagnitude (num <<< 1074) den) infinityMagnitude := rfl

section Rounding

variable {num num' den : Nat}

/-- The fraction keeps 53 bits, the first of them set if any are rounded away. -/
theorem roundingShift_spec (num : Nat) (hden : 0 < den) :
    num < 2 * leadingBit * (den * 2 ^ roundingShift num den) ∧
      (roundingShift num den = 0 ∨ leadingBit * (den * 2 ^ roundingShift num den) ≤ num) := by
  have hpow : ∀ k shift, 2 ^ k * (den * 2 ^ shift) = 2 ^ (k + shift) * den := by
    intro k shift
    rw [Nat.pow_add, Nat.mul_assoc, Nat.mul_comm den]
  have htop : 2 * leadingBit = 2 ^ 53 := by decide
  have hbottom : leadingBit = 2 ^ 52 := by decide
  rw [htop, hbottom, hpow, hpow, ← Nat.div_lt_iff_lt_mul hden, ← Nat.le_div_iff_mul_le hden]
  constructor
  · refine Nat.lt_of_lt_of_le Nat.lt_log2_self (Nat.pow_le_pow_right (by decide) ?_)
    unfold roundingShift
    omega
  · by_cases hzero : roundingShift num den = 0
    · exact .inl hzero
    · have hquotient : num / den ≠ 0 := by
        intro h
        simp [roundingShift, h] at hzero
      refine .inr (Nat.le_trans (Nat.pow_le_pow_right (by decide) ?_) (Nat.log2_self_le hquotient))
      unfold roundingShift at hzero ⊢
      omega

theorem roundingShift_mono (hden : 0 < den) (h : num ≤ num') :
    roundingShift num den ≤ roundingShift num' den := by
  refine Nat.le_of_not_lt fun hlt => ?_
  rcases (roundingShift_spec num hden).2 with hzero | hbottom
  · omega
  · -- A greater shift of the smaller fraction would put it above the other one.
    have hpow : den * 2 ^ roundingShift num' den * 2 ≤ den * 2 ^ roundingShift num den := by
      rw [Nat.mul_assoc, ← Nat.pow_succ]
      exact Nat.mul_le_mul_left den (Nat.pow_le_pow_right (by decide) hlt)
    have hscaled := Nat.mul_le_mul_left leadingBit hpow
    have htop := (roundingShift_spec num' hden).1
    rw [Nat.mul_comm 2, Nat.mul_assoc, Nat.mul_comm 2] at htop
    omega

/-- A step is counted up to its end, and from its start unless it is the first. -/
theorem roundedCount_bounds (num : Nat) (hden : 0 < den) :
    divNearest num (den <<< roundingShift num den) ≤ 2 * leadingBit ∧
      (roundingShift num den = 0 ∨
        leadingBit ≤ divNearest num (den <<< roundingShift num den)) := by
  have hstep : 0 < den * 2 ^ roundingShift num den := Nat.mul_pos hden (Nat.two_pow_pos _)
  obtain ⟨htop, hbottom⟩ := roundingShift_spec num hden
  rw [Nat.shiftLeft_eq]
  exact ⟨divNearest_le hstep htop, hbottom.imp_right (le_divNearest hstep)⟩

/-- **Rounding keeps the order.** -/
theorem roundedMagnitude_mono (hden : 0 < den) (h : num ≤ num') :
    roundedMagnitude num den ≤ roundedMagnitude num' den := by
  have htop := (roundedCount_bounds num hden).1
  have hbottom := (roundedCount_bounds num' hden).2
  unfold roundedMagnitude
  rcases (roundingShift_mono hden h).lt_or_eq with hlt | heq
  · -- The end of one step is no further than the start of the next.
    have hsteps := Nat.mul_le_mul_right leadingBit hlt
    rw [Nat.succ_mul] at hsteps
    omega
  · rw [heq]
    refine Nat.add_le_add_left (divNearest_mono ?_ h) _
    rw [Nat.shiftLeft_eq]
    exact Nat.mul_pos hden (Nat.two_pow_pos _)

/-- **A whole number of steps is not changed.** -/
theorem unitsOfMagnitude_rounded (hden : 0 < den)
    (h : den * 2 ^ roundingShift num den ∣ num) :
    unitsOfMagnitude (roundedMagnitude num den) * den = num := by
  obtain ⟨count, hcount⟩ := h
  have hstep : 0 < den * 2 ^ roundingShift num den := Nat.mul_pos hden (Nat.two_pow_pos _)
  have hnearest : divNearest num (den <<< roundingShift num den) = count := by
    have hmul : num = count * (den * 2 ^ roundingShift num den) := by rw [Nat.mul_comm, ← hcount]
    rw [Nat.shiftLeft_eq]
    calc divNearest num (den * 2 ^ roundingShift num den)
        = divNearest (count * (den * 2 ^ roundingShift num den))
            (den * 2 ^ roundingShift num den) := congrArg (divNearest · _) hmul
      _ = count := divNearest_mul hstep
  have hbounds := roundedCount_bounds num hden
  rw [hnearest] at hbounds
  rw [roundedMagnitude, hnearest, unitsOfMagnitude_add hbounds.1 hbounds.2, Nat.mul_assoc,
    Nat.mul_comm _ den, Nat.mul_comm count]
  exact hcount.symm

/-- **Rounding leaves a number as it is**: the units of a magnitude are a whole number of its
steps, and no coarser steps are rounded to. -/
theorem roundedMagnitude_units (magnitude : Nat) :
    roundedMagnitude (unitsOfMagnitude magnitude) 1 = magnitude := by
  obtain ⟨shift, count, hcount, hfull, rfl⟩ := exists_count magnitude
  refine unitsOfMagnitude_strictMono.injective ?_
  have hunits : unitsOfMagnitude (shift * leadingBit + count) = count * 2 ^ shift :=
    unitsOfMagnitude_add (by omega) hfull
  have hshift : roundingShift (count * 2 ^ shift) 1 ≤ shift := by
    rcases (roundingShift_spec (count * 2 ^ shift) Nat.one_pos).2 with hzero | hbottom
    · omega
    · refine Nat.le_of_not_lt fun hlt => ?_
      have hnext := Nat.mul_le_mul_left leadingBit (Nat.pow_le_pow_right Nat.two_pos hlt)
      have htop := Nat.mul_lt_mul_of_pos_right hcount (Nat.two_pow_pos shift)
      rw [Nat.one_mul] at hbottom
      rw [Nat.pow_succ, Nat.mul_comm (2 ^ shift), ← Nat.mul_assoc, Nat.mul_comm leadingBit] at hnext
      omega
  have hdvd : 1 * 2 ^ roundingShift (count * 2 ^ shift) 1 ∣ count * 2 ^ shift := by
    rw [Nat.one_mul]
    exact Nat.dvd_mul_left_of_dvd (Nat.pow_dvd_pow 2 hshift) count
  have hexact := unitsOfMagnitude_rounded Nat.one_pos hdvd
  rw [Nat.mul_one] at hexact
  rw [hunits, hexact]

end Rounding

/-! ## 4. Numbers of a sign and a magnitude -/

section Words

variable {negative : Bool} {magnitude : Nat}

theorem toNat_ofMagnitude (h : magnitude < signBit) :
    (ofMagnitude negative magnitude).bits.toNat =
      magnitude + if negative then signBit else 0 := by
  have hword : magnitude + (if negative then signBit else 0) < 2 ^ 64 := by
    have hsign : 2 * signBit = 2 ^ 64 := by decide
    split <;> omega
  exact UInt64.toNat_ofNat_of_lt' hword

theorem magnitude_ofMagnitude (h : magnitude < signBit) :
    (ofMagnitude negative magnitude).magnitude = magnitude := by
  rw [Binary64.magnitude, toNat_ofMagnitude h]
  cases negative with
  | true => rw [if_pos rfl, Nat.add_mod_right, Nat.mod_eq_of_lt h]
  | false => exact Nat.mod_eq_of_lt h

theorem negative_ofMagnitude (h : magnitude < signBit) :
    (ofMagnitude negative magnitude).negative = negative := by
  rw [Binary64.negative, toNat_ofMagnitude h]
  cases negative with
  | true => simp
  | false => simpa using h

end Words

theorem infinityMagnitude_lt : infinityMagnitude < signBit := by decide

theorem magnitudeOfRatio_lt (num den : Nat) : magnitudeOfRatio num den < signBit :=
  Nat.lt_of_le_of_lt (Nat.min_le_right ..) infinityMagnitude_lt

/-! ## 5. Integers -/

/-- The integer `1` in units of `2 ^ -1074`. -/
def one : Int := (2 ^ 1074 : Nat)

theorem one_pos : 0 < one := by
  have hpow : ∀ k : Nat, 0 < 2 ^ k := Nat.two_pow_pos
  exact Int.natCast_pos.mpr (hpow 1074)

/-- An integer is no NaN, even when it is too large for a finite number. -/
theorem ofInt_isNaN (n : Int) : (ofInt n).isNaN = false := by
  have hle : magnitudeOfRatio n.natAbs 1 ≤ infinityMagnitude := Nat.min_le_right ..
  simp [isNaN, ofInt, ofRatio, magnitude_ofMagnitude (magnitudeOfRatio_lt ..), hle]

/-- The units of the number nearest to a natural number. -/
def unitsOfNat (n : Nat) : Nat := unitsOfMagnitude (magnitudeOfRatio n 1)

theorem units_ofInt_eq (n : Int) :
    (ofInt n).units = if n < 0 then -(unitsOfNat n.natAbs : Int) else unitsOfNat n.natAbs := by
  rw [units, unitsAbs_eq, ofInt, ofRatio, magnitude_ofMagnitude (magnitudeOfRatio_lt ..),
    negative_ofMagnitude (magnitudeOfRatio_lt ..)]
  simp [unitsOfNat]

theorem unitsOfNat_mono {m n : Nat} (h : m ≤ n) : unitsOfNat m ≤ unitsOfNat n := by
  have hunits : m <<< 1074 ≤ n <<< 1074 := by
    rw [Nat.shiftLeft_eq, Nat.shiftLeft_eq]
    exact Nat.mul_le_mul_right _ h
  have hrounded := roundedMagnitude_mono Nat.one_pos hunits
  refine unitsOfMagnitude_strictMono.monotone ?_
  rw [magnitudeOfRatio_eq, magnitudeOfRatio_eq]
  omega

/-- **An integer is not rounded past a number**, from above. -/
theorem le_unitsOfNat {magnitude n : Nat} (hmagnitude : magnitude ≤ infinityMagnitude)
    (h : unitsOfMagnitude magnitude ≤ n <<< 1074) : unitsOfMagnitude magnitude ≤ unitsOfNat n := by
  have hrounded := roundedMagnitude_mono Nat.one_pos h
  rw [roundedMagnitude_units] at hrounded
  rw [unitsOfNat, magnitudeOfRatio_eq]
  exact unitsOfMagnitude_strictMono.monotone (Nat.le_min.mpr ⟨hrounded, hmagnitude⟩)

/-- The same from below. -/
theorem unitsOfNat_le {magnitude n : Nat} (h : n <<< 1074 ≤ unitsOfMagnitude magnitude) :
    unitsOfNat n ≤ unitsOfMagnitude magnitude := by
  have hrounded := roundedMagnitude_mono Nat.one_pos h
  rw [roundedMagnitude_units] at hrounded
  rw [unitsOfNat, magnitudeOfRatio_eq]
  exact unitsOfMagnitude_strictMono.monotone (Nat.le_trans (Nat.min_le_left ..) hrounded)

/-- Up to `2 ^ 53`, the bits that are rounded away are those of the unit. -/
theorem roundingShift_dvd {n : Nat} (h : n ≤ 2 ^ 53) (unit : Nat) :
    roundingShift (n <<< unit) 1 ≤ unit + 1 ∧ 2 ^ roundingShift (n <<< unit) 1 ∣ n <<< unit := by
  have hspec := (roundingShift_spec (n <<< unit) Nat.one_pos).2
  have hleading : leadingBit = 2 ^ 52 := by decide
  rw [Nat.shiftLeft_eq, hleading, Nat.one_mul] at hspec
  rw [Nat.shiftLeft_eq]
  generalize roundingShift (n * 2 ^ unit) 1 = shift at hspec ⊢
  rcases hspec with rfl | hbottom
  · exact ⟨Nat.zero_le _, Nat.one_dvd _⟩
  rw [← Nat.pow_add] at hbottom
  rcases Nat.lt_or_eq_of_le h with hlt | rfl
  · have htop : n * 2 ^ unit < 2 ^ 53 * 2 ^ unit :=
      Nat.mul_lt_mul_of_pos_right hlt (Nat.two_pow_pos _)
    rw [← Nat.pow_add] at htop
    have hshift := (Nat.pow_lt_pow_iff_right (by decide)).mp (Nat.lt_of_le_of_lt hbottom htop)
    exact ⟨by omega, Nat.dvd_mul_left_of_dvd (Nat.pow_dvd_pow 2 (by omega)) n⟩
  · rw [← Nat.pow_add] at hbottom ⊢
    have hshift := (Nat.pow_le_pow_iff_right (by decide)).mp hbottom
    exact ⟨by omega, Nat.pow_dvd_pow 2 (by omega)⟩

theorem unitsOfNat_eq {n : Nat} (h : n ≤ 2 ^ 53) : unitsOfNat n = n * 2 ^ 1074 := by
  obtain ⟨hshift, hdvd⟩ := roundingShift_dvd h 1074
  have hcount := (roundedCount_bounds (n <<< 1074) Nat.one_pos).1
  have hfinite : roundedMagnitude (n <<< 1074) 1 ≤ infinityMagnitude := by
    have hsteps := Nat.mul_le_mul_right leadingBit hshift
    unfold roundedMagnitude infinityMagnitude
    omega
  rw [← Nat.one_mul (2 ^ _)] at hdvd
  have hexact := unitsOfMagnitude_rounded Nat.one_pos hdvd
  rw [Nat.mul_one] at hexact
  -- Said of every exponent, so that the power is not computed.
  have hpow : ∀ k, n <<< k = n * 2 ^ k := Nat.shiftLeft_eq n
  rw [unitsOfNat, magnitudeOfRatio_eq, Nat.min_eq_left hfinite, hexact, hpow]

/-- **A greater integer is no less a number.** -/
theorem units_ofInt_mono {m n : Int} (h : m ≤ n) : (ofInt m).units ≤ (ofInt n).units := by
  rw [units_ofInt_eq, units_ofInt_eq]
  by_cases hn : n < 0
  · have hmono := unitsOfNat_mono (m := n.natAbs) (n := m.natAbs) (by omega)
    rw [if_pos hn, if_pos (by omega)]
    omega
  · by_cases hm : m < 0
    · rw [if_pos hm, if_neg hn]
      omega
    · have hmono := unitsOfNat_mono (m := m.natAbs) (n := n.natAbs) (by omega)
      rw [if_neg hm, if_neg hn]
      omega

theorem cast_shiftLeft (n : Nat) : ((n <<< 1074 : Nat) : Int) = n * one := by
  -- Said of every exponent, so that the power is not computed.
  have hpow : ∀ k, ((n <<< k : Nat) : Int) = n * (2 ^ k : Nat) := fun k => by
    rw [Nat.shiftLeft_eq, Int.natCast_mul]
  exact hpow 1074

theorem units_ofInt_neg (n : Int) : (ofInt (-n)).units = -(ofInt n).units := by
  rw [units_ofInt_eq, units_ofInt_eq, Int.natAbs_neg]
  rcases Int.lt_trichotomy n 0 with hn | rfl | hn
  · rw [if_pos hn, if_neg (by omega), Int.neg_neg]
  · have hzero : unitsOfNat 0 = 0 := by rw [unitsOfNat_eq (by decide), Nat.zero_mul]
    simp [hzero]
  · rw [if_pos (show -n < 0 by omega), if_neg (show ¬ n < 0 by omega)]

/-- An integer is not rounded past the units of a magnitude, taken with either sign. -/
theorem le_ofInt_of_natAbs {u n : Int} {magnitude : Nat}
    (hmagnitude : magnitude ≤ infinityMagnitude) (hu : u.natAbs = unitsOfMagnitude magnitude)
    (h : u ≤ n * one) : u ≤ (ofInt n).units := by
  have hone := one_pos
  have hcast := cast_shiftLeft n.natAbs
  rw [units_ofInt_eq]
  by_cases hn : n < 0
  · have hneg : n * one < 0 := Int.mul_neg_of_neg_of_pos hn hone
    rw [Int.ofNat_natAbs_of_nonpos (by omega), Int.neg_mul] at hcast
    have hle : unitsOfNat n.natAbs ≤ unitsOfMagnitude magnitude := unitsOfNat_le (by omega)
    rw [if_pos hn]
    omega
  · rw [Int.natAbs_of_nonneg (by omega)] at hcast
    rw [if_neg hn]
    by_cases hsign : u < 0
    · omega
    · have hle : unitsOfMagnitude magnitude ≤ unitsOfNat n.natAbs :=
        le_unitsOfNat hmagnitude (by omega)
      omega

theorem natAbs_units (x : Binary64) : x.units.natAbs = unitsOfMagnitude x.magnitude := by
  rw [units, unitsAbs_eq]
  split <;> simp

/-- **A number not above an integer is not above it rounded.** -/
theorem units_le_ofInt {x : Binary64} (hx : x.isNaN = false) {n : Int} (h : x.units ≤ n * one) :
    x.units ≤ (ofInt n).units :=
  le_ofInt_of_natAbs (Nat.not_lt.mp (of_decide_eq_false hx)) x.natAbs_units h

/-- **A number not below an integer is not below it rounded.** -/
theorem ofInt_le_units {x : Binary64} (hx : x.isNaN = false) {n : Int} (h : n * one ≤ x.units) :
    (ofInt n).units ≤ x.units := by
  have hopposite : -x.units ≤ -n * one := by
    rw [Int.neg_mul]
    omega
  have hle := le_ofInt_of_natAbs (Nat.not_lt.mp (of_decide_eq_false hx))
    ((Int.natAbs_neg _).trans x.natAbs_units) hopposite
  rw [units_ofInt_neg] at hle
  omega

/-- **Up to `2 ^ 53` an integer is a number exactly.** -/
theorem units_ofInt {n : Int} (h : n.natAbs ≤ 2 ^ 53) : (ofInt n).units = n * one := by
  rw [units_ofInt_eq, unitsOfNat_eq h]
  have hcast : ((n.natAbs * 2 ^ 1074 : Nat) : Int) = n.natAbs * one := by
    rw [Int.natCast_mul, one]
  rw [hcast]
  by_cases hn : n < 0
  · rw [if_pos hn, ← Int.neg_mul, Int.ofNat_natAbs_of_nonpos (by omega), Int.neg_neg]
  · rw [if_neg hn, Int.natAbs_of_nonneg (by omega)]

end Binary64

end RecordFilter
