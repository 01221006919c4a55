/-
# Numbers

A number is an integer of one of three widths or a binary64 number.  This module defines the
three relations on numbers that a filter can observe: `compare?`, the order by value; `strictEq`,
equality as `equals` sees it; `sameForm`, equality of kind and payload.  Two integers are compared
exactly.  A comparison with a binary64 number on either side is made in binary64, so a large
integer is rounded first.
-/
import RecordFilter.Number.BoundedInt
import RecordFilter.Number.Binary64

namespace RecordFilter

/-- A number of a record. -/
inductive Number where
  | signed (n : Signed64)
  | unsigned (n : Unsigned64)
  | wide (n : Signed128)
  | real (x : Binary64)
deriving DecidableEq

namespace Number

/-! ## 1. Two readings of a number -/

/-- The integer that a number of an integer kind holds. -/
def integer? : Number → Option Int
  | signed n => some n.val
  | unsigned n => some n.val
  | wide n => some n.val
  | real _ => none

/-- The nearest binary64 number. -/
def toBinary64 : Number → Binary64
  | signed n => .ofInt n.val
  | unsigned n => .ofInt n.val
  | wide n => .ofInt n.val
  | real x => x

/-- Is the number a NaN? -/
def isNaN : Number → Bool
  | real x => x.isNaN
  | _ => false

/-- Is the number of the widest integer kind? -/
def isWide : Number → Bool
  | wide _ => true
  | _ => false

/-! ## 2. Order and equality -/

/-- The order of two numbers: exact between integers, otherwise in binary64.  There is none when
either side is a NaN. -/
def compare? (a b : Number) : Option Ordering :=
  match a.integer?, b.integer? with
  | some m, some n => some (compare m n)
  | _, _ => a.toBinary64.compare? b.toBinary64

/-- Equality as `equals` sees it: equal by value, except that a wide integer equals only wide
integers. -/
def strictEq (a b : Number) : Bool :=
  a.isWide == b.isWide && a.compare? b == some .eq

/-- Equality of kind and payload, the two zeros of binary64 being equal and a NaN equal to
nothing. -/
def sameForm : Number → Number → Bool
  | signed m, signed n => m == n
  | unsigned m, unsigned n => m == n
  | wide m, wide n => m == n
  | real x, real y => x.compare? y == some .eq
  | _, _ => false

/-! ## 3. The kind that an integer takes -/

/-- An integer from the least signed to the greatest unsigned one, as a number: signed when it
fits, otherwise unsigned. -/
def ofInteger (n : BoundedInt (-0x8000000000000000) 0xffffffffffffffff) : Number :=
  if h : n.val ≤ 0x7fffffffffffffff then signed ⟨n.val, n.lo_le, h⟩
  else unsigned ⟨n.val, by omega, n.le_hi⟩

end Number

end RecordFilter
