/-
# The shortest decimal that reads back

A finite binary64 number stands for the interval of reals that round to it; the ends belong to
it when its fraction is even.  The shortest decimal is looked for grid by grid: the two
neighbours of the number among the decimals of one digit, then of two, up to seventeen.  The
first grid with a neighbour inside the interval wins, and of two neighbours inside the nearer
one, a tie going to the even digit.  All of it is integer arithmetic on fractions.

How the digits are laid out as text is left to the writer of JSON.
-/
import RecordFilter.Number.Binary64

namespace RecordFilter

/-- The decimal `digits * 10 ^ exponent`, never negative. -/
structure Decimal where
  digits : Nat
  exponent : Int
deriving DecidableEq

namespace Decimal

/-- `digits * 10 ^ exponent` as a fraction: its two terms. -/
def ratio (d : Decimal) : Nat × Nat :=
  if 0 ≤ d.exponent then (d.digits * Nat.pow 10 d.exponent.toNat, 1)
  else (d.digits, Nat.pow 10 (-d.exponent).toNat)

/-- The same decimal with the zeros at the end of its digits moved into the exponent. -/
def trim (d : Decimal) : Decimal :=
  let zeros := ((toString d.digits).toList.reverse.takeWhile (· == '0')).length
  if d.digits = 0 then ⟨0, 0⟩ else ⟨d.digits / Nat.pow 10 zeros, d.exponent + zeros⟩

end Decimal

namespace Binary64

/-! ## 1. The interval of reals that round to a number

In quarters of a unit, so that the middle between two neighbours is a whole number. -/

/-- The interval, with the number itself, in units of `2 ^ -1076`. -/
structure Interval where
  low : Nat
  value : Nat
  high : Nat
  closed : Bool

/-- The reals that round to a finite number, by absolute value.  Below the first number of a
binade the neighbour is only half as far away. -/
def interval (x : Binary64) : Interval :=
  let spacing := 1 <<< (x.exponent - 1)
  let below := if x.fraction = 0 && decide (1 < x.exponent) then spacing else 2 * spacing
  { low := 4 * x.unitsAbs - below
    value := 4 * x.unitsAbs
    high := 4 * x.unitsAbs + 2 * spacing
    closed := x.fraction % 2 == 0 }

/-- The denominator that turns the whole numbers of an `Interval` into reals. -/
def intervalUnit : Nat := 1 <<< 1076

namespace Interval

/-- Is the decimal inside the interval? -/
def contains (i : Interval) (d : Decimal) : Bool :=
  let (num, den) := d.ratio
  let point := num * intervalUnit
  if i.closed then decide (i.low * den ≤ point) && decide (point ≤ i.high * den)
  else decide (i.low * den < point) && decide (point < i.high * den)

/-- Twice the distance from the value to the lower of two neighbouring decimals, set against
the spacing of their grid. -/
def leansTo (i : Interval) (lower : Decimal) : Ordering :=
  let (step, den) := Decimal.ratio ⟨1, lower.exponent⟩
  let gap := i.value * den - lower.digits * step * intervalUnit
  compare (2 * gap) (step * intervalUnit)

/-- The greatest decimal with this exponent that is not above the value. -/
def floorAt (i : Interval) (exponent : Int) : Decimal :=
  let (step, den) := Decimal.ratio ⟨1, exponent⟩
  ⟨i.value * den / (step * intervalUnit), exponent⟩

/-- The decimal of the grid with this exponent that reads back, if there is one. -/
def onGrid (i : Interval) (exponent : Int) : Option Decimal :=
  let lower := i.floorAt exponent
  let upper : Decimal := ⟨lower.digits + 1, exponent⟩
  match i.contains lower, i.contains upper with
  | true, true =>
    match i.leansTo lower with
    | .lt => some lower
    | .gt => some upper
    | .eq => some (if lower.digits % 2 = 0 then lower else upper)
  | true, false => some lower
  | false, true => some upper
  | false, false => none

/-- The least exponent `e` with the value below `10 ^ e`, for a value that is not zero.  The
binary length gives a guess that is at most one too small. -/
def decimalPoint (i : Interval) : Int :=
  let guess : Int := ((Nat.log2 i.value : Int) - 1076) * 30103 / 100000
  let below (e : Int) : Bool :=
    let (num, den) := Decimal.ratio ⟨1, e⟩
    decide (i.value * den < num * intervalUnit)
  if below guess then guess else if below (guess + 1) then guess + 1 else guess + 2

end Interval

/-! ## 2. The search -/

/-- The shortest decimal that rounds to a finite number, by absolute value.  Seventeen digits
always suffice. -/
def shortest (x : Binary64) : Decimal :=
  if x.unitsAbs = 0 then ⟨0, 0⟩
  else
    let i := x.interval
    let point := i.decimalPoint
    match (List.range 17).findSome? (fun n => i.onGrid (point - (n + 1 : Nat))) with
    | some d => d.trim
    | none => i.floorAt (point - 17)

end Binary64

end RecordFilter
