/-
# Integers between two bounds

The integers of a record are machine integers of three widths.  Each width is the type of
integers between two bounds, so that arithmetic on them is arithmetic on `Int` and the range is
a fact that the value carries.  This module holds the type, the two ways into it (`ofInt?`
refuses what does not fit, `clamp` saturates), and the three widths.
-/
namespace RecordFilter

/-- An integer from `lo` to `hi`, both included. -/
structure BoundedInt (lo hi : Int) where
  val : Int
  lo_le : lo ≤ val
  le_hi : val ≤ hi
deriving DecidableEq

namespace BoundedInt

variable {lo hi : Int}

/-! ## 1. The value determines the integer -/

theorem ext_val {a b : BoundedInt lo hi} (h : a.val = b.val) : a = b := by
  cases a; cases b; cases h; rfl

theorem val_inj {a b : BoundedInt lo hi} : a.val = b.val ↔ a = b :=
  ⟨ext_val, fun h => h ▸ rfl⟩

/-! ## 2. Ways in -/

/-- The integer itself when it lies between the bounds. -/
def ofInt? (n : Int) : Option (BoundedInt lo hi) :=
  if h : lo ≤ n ∧ n ≤ hi then some ⟨n, h.1, h.2⟩ else none

theorem ofInt?_eq_some_iff {n : Int} {a : BoundedInt lo hi} : ofInt? n = some a ↔ a.val = n := by
  unfold ofInt?
  split
  next h =>
    constructor
    · intro e; cases e; rfl
    · intro e; exact congrArg some (ext_val e.symm)
  next h =>
    constructor
    · intro e; cases e
    · intro e; exact absurd ⟨e ▸ a.lo_le, e ▸ a.le_hi⟩ h

theorem ofInt?_eq_none_iff {n : Int} :
    (ofInt? n : Option (BoundedInt lo hi)) = none ↔ ¬ (lo ≤ n ∧ n ≤ hi) := by
  unfold ofInt?
  split
  next h => exact iff_of_false (by simp) (fun hn => hn h)
  next h => exact iff_of_true rfl h

/-- The nearest integer between the bounds. -/
def clamp (within : lo ≤ hi) (n : Int) : BoundedInt lo hi :=
  ⟨max lo (min n hi), Int.le_max_left .., by omega⟩

@[simp] theorem clamp_val (within : lo ≤ hi) (n : Int) :
    (clamp within n).val = max lo (min n hi) := rfl

theorem clamp_of_mem (within : lo ≤ hi) (a : BoundedInt lo hi) : clamp within a.val = a :=
  ext_val (by have := a.lo_le; have := a.le_hi; simp; omega)

end BoundedInt

/-! ## 3. The widths in use -/

/-- A signed integer of 64 bits. -/
abbrev Signed64 := BoundedInt (-0x8000000000000000) 0x7fffffffffffffff

/-- An unsigned integer of 64 bits. -/
abbrev Unsigned64 := BoundedInt 0 0xffffffffffffffff

/-- A signed integer of 128 bits. -/
abbrev Signed128 :=
  BoundedInt (-0x80000000000000000000000000000000) 0x7fffffffffffffffffffffffffffffff

/-- The signed 64-bit integer nearest to `n`. -/
def Signed64.clamp (n : Int) : Signed64 := BoundedInt.clamp (by decide) n

/-- A length as an unsigned 64-bit integer; a list in memory is never longer than fits. -/
def Unsigned64.ofNat (n : Nat) : Unsigned64 := BoundedInt.clamp (by decide) (n : Int)

end RecordFilter
