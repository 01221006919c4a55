/-
# Numerics

Numbers and timestamps share one axis: a timestamp is compared as the count of its milliseconds.
A bound of an ordering operator is a numeric, and so is every value that such a bound applies to.
-/
import RecordFilter.Number.Basic
import RecordFilter.Timestamp

namespace RecordFilter

/-- What an ordering operator compares. -/
inductive Numeric where
  | number (n : Number)
  | timestamp (t : Timestamp)
deriving DecidableEq

namespace Numeric

/-- The number that stands for a numeric on the common axis. -/
def normalize : Numeric → Number
  | number n => n
  | timestamp t => .signed t.millis

/-- The order of two numerics on the common axis. -/
def compare? (a b : Numeric) : Option Ordering := a.normalize.compare? b.normalize

/-- Equality of kind and payload: a timestamp is never a number. -/
def sameForm : Numeric → Numeric → Bool
  | number a, number b => a.sameForm b
  | timestamp a, timestamp b => a == b
  | _, _ => false

end Numeric

end RecordFilter
