/-
# Binary64 numbers

A binary64 number is kept as its 64 bits, so every operation below is exact integer arithmetic.
A number that is not a NaN is a whole multiple of the smallest positive one, `2 ^ -1074`; `units`
is that multiple, and the two infinities take the place that the next binade would have.
Comparison is comparison of units.  `ofRatio` goes the other way: it rounds a fraction to the
nearest number, a half to the even one; products and quotients are rounded that way.
-/
namespace RecordFilter

/-- A binary64 number, as its sign bit, eleven exponent bits and fifty-two fraction bits. -/
structure Binary64 where
  bits : UInt64
deriving DecidableEq

namespace Binary64

/-! ## 1. The parts of a word -/

/-- The weight of the sign bit. -/
def signBit : Nat := 0x8000000000000000

/-- The weight of the last exponent bit, which is also that of the leading one bit that a fraction
leaves out. -/
def leadingBit : Nat := 0x10000000000000

/-- Is the sign bit set? -/
def negative (x : Binary64) : Bool := decide (signBit ≤ x.bits.toNat)

/-- The word without its sign bit.  Magnitudes are ordered as the absolute values are. -/
def magnitude (x : Binary64) : Nat := x.bits.toNat % signBit

/-- The exponent bits; all ones for an infinity or a NaN. -/
def exponent (x : Binary64) : Nat := x.magnitude / leadingBit

/-- The fraction bits. -/
def fraction (x : Binary64) : Nat := x.magnitude % leadingBit

/-- The magnitude of the two infinities: exponent bits all ones, fraction zero. -/
def infinityMagnitude : Nat := 2047 * leadingBit

/-- Not a number: a magnitude above infinity. -/
def isNaN (x : Binary64) : Bool := decide (infinityMagnitude < x.magnitude)

/-- Neither an infinity nor a NaN. -/
def isFinite (x : Binary64) : Bool := decide (x.magnitude < infinityMagnitude)

/-! ## 2. Exact values and comparison -/

/-- The absolute value in units of `2 ^ -1074`.  The leading one bit is implied unless the
exponent bits are zero. -/
def unitsAbs (x : Binary64) : Nat :=
  match x.exponent with
  | 0 => x.fraction
  | e + 1 => (leadingBit + x.fraction) <<< e

/-- The exact value in units of `2 ^ -1074`; both zeros are `0`. -/
def units (x : Binary64) : Int :=
  if x.negative then -(x.unitsAbs : Int) else x.unitsAbs

/-- The order of two numbers by exact value; a NaN has no order with anything. -/
def compare? (x y : Binary64) : Option Ordering :=
  if x.isNaN || y.isNaN then none else some (compare x.units y.units)

/-! ## 3. Rounding to the nearest number -/

/-- The number with a given sign and magnitude. -/
def ofMagnitude (negative : Bool) (magnitude : Nat) : Binary64 :=
  ⟨UInt64.ofNat (magnitude + if negative then signBit else 0)⟩

/-- The one NaN that this library makes. -/
def nan : Binary64 := ⟨0x7ff8000000000000⟩

/-- The fraction `num / den` to the nearest whole number, a half to the even neighbour. -/
def divNearest (num den : Nat) : Nat :=
  let quotient := num / den
  let twice := 2 * (num % den)
  if twice < den || (twice == den && quotient % 2 == 0) then quotient else quotient + 1

/-- The magnitude nearest to `num / den`.  In units of `2 ^ -1074` the fraction keeps its 53
leading bits; `shift` bits are rounded away.  A carry out of the 53 bits lands in the exponent
bits, which is where it belongs, and everything past the last binade is an infinity. -/
def magnitudeOfRatio (num den : Nat) : Nat :=
  let scaled := num <<< 1074
  let shift := Nat.log2 (scaled / den) + 1 - 53
  min (shift * leadingBit + divNearest scaled (den <<< shift)) infinityMagnitude

/-- The number nearest to `± num / den`. -/
def ofRatio (negative : Bool) (num den : Nat) : Binary64 :=
  ofMagnitude negative (magnitudeOfRatio num den)

/-- The number nearest to an integer. -/
def ofInt (n : Int) : Binary64 := ofRatio (decide (n < 0)) n.natAbs 1

/-- The binary64 number equal to a binary32 number given by its bits. -/
def ofBinary32 (word : UInt32) : Binary64 :=
  let negative := decide (0x80000000 ≤ word.toNat)
  let exponent := word.toNat / 0x800000 % 0x100
  let fraction := word.toNat % 0x800000
  if exponent = 255 then
    if fraction = 0 then ofMagnitude negative infinityMagnitude else nan
  else
    match exponent with
    | 0 => ofRatio negative fraction (1 <<< 149)
    | e + 1 => ofRatio negative ((0x800000 + fraction) <<< e) (1 <<< 149)

/-! ## 4. Products and quotients -/

/-- The number nearest to the product of two finite numbers. -/
def mul (x y : Binary64) : Binary64 :=
  ofRatio (x.negative != y.negative) (x.unitsAbs * y.unitsAbs) (1 <<< 2148)

/-- The number nearest to the quotient of two finite numbers, of which the second is not zero. -/
def div (x y : Binary64) : Binary64 :=
  ofRatio (x.negative != y.negative) x.unitsAbs y.unitsAbs

/-- The number nearest to a power of ten. -/
def powerOfTen (exponent : Nat) : Binary64 := ofRatio false (Nat.pow 10 exponent) 1

end Binary64

end RecordFilter
