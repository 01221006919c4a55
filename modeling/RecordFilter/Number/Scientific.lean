/-
# Scientific notation

A numeral with a fraction or an exponent, or with more digits than 64 bits hold, is read in two
steps.  `ofDigits` takes digits into a significand of 64 bits as long as it holds them; the digits
that come after are left out and count in the exponent alone.  `toBinary64?` rounds the
significand to binary64 and multiplies it by the power of ten, or divides it by the opposite one.
Each step rounds, so the result can be some units away from the number nearest to the numeral.

Powers of ten go up to 308.  For lower exponents the significand is first divided by the
greatest power, more than once if need be; for higher ones the number is too great, unless the
significand is zero.
-/
import RecordFilter.Number.Binary64

namespace RecordFilter

/-- The number `significand * 10 ^ exponent`, never negative. -/
structure Scientific where
  significand : Nat
  exponent : Int
deriving DecidableEq

namespace Scientific

/-! ## 1. From digits -/

/-- The value of a decimal digit. -/
def digitValue (c : Char) : Nat := c.toNat - 48

/-- What significands stay below. -/
def significandBound : Nat := 0x10000000000000000

/-- Takes digits into a significand as long as it stays below the bound.  The result is the
significand and the digits that are left. -/
def takeDigits : Nat → List Char → Nat × List Char
  | significand, [] => (significand, [])
  | significand, c :: rest =>
    let next := 10 * significand + digitValue c
    if next < significandBound then takeDigits next rest else (significand, c :: rest)

/-- The number with some digits before the point, some after it, and a power of ten.  A digit
before the point that does not fit makes the power greater by one; one after the point does not
count. -/
def ofDigits (whole places : List Char) (exponent : Int) : Scientific :=
  let (significand, beyond) := takeDigits 0 whole
  let (significand, ignored) := takeDigits significand places
  { significand
    exponent := exponent + beyond.length - (places.length - ignored.length) }

/-! ## 2. To binary64 -/

/-- The greatest exponent for which there is a power of ten. -/
def greatestPower : Nat := 308

/-- A number divided by a power of ten, by the greatest one first as long as the exponent is
beyond it.  Two such divisions leave nothing of a significand. -/
def divideByPower : Nat → Binary64 → Nat → Binary64
  | 0, x, _ => x
  | rounds + 1, x, exponent =>
    if exponent ≤ greatestPower then x.div (.powerOfTen exponent)
    else divideByPower rounds (x.div (.powerOfTen greatestPower)) (exponent - greatestPower)

/-- The number in binary64; none when it is too great. -/
def toBinary64? (n : Scientific) : Option Binary64 :=
  let x := Binary64.ofRatio false n.significand 1
  if n.exponent < 0 then some (divideByPower 3 x (-n.exponent).toNat)
  else if n.exponent ≤ greatestPower then
    let product := x.mul (.powerOfTen n.exponent.toNat)
    if product.isFinite then some product else none
  else if n.significand = 0 then some x
  else none

end Scientific

end RecordFilter
