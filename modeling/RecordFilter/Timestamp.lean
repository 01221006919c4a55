/-
# Timestamps

A timestamp is a signed 64-bit count of milliseconds since the epoch.  Conversions into it
saturate: whole seconds are multiplied by a thousand, and an instant, given by its signed offset
from the epoch in nanoseconds, loses the part below a millisecond toward zero.
-/
import RecordFilter.Number.BoundedInt

namespace RecordFilter

/-- A point in time, in milliseconds since the epoch. -/
structure Timestamp where
  millis : Signed64
deriving DecidableEq

/-- A point in time as a clock gives it: a signed offset from the epoch in nanoseconds. -/
structure Instant where
  nanos : Int
deriving DecidableEq

namespace Timestamp

/-- The timestamp of a count of seconds, saturated. -/
def ofSeconds (seconds : Signed64) : Timestamp := ⟨.clamp (seconds.val * 1000)⟩

/-- The whole seconds of a timestamp, toward zero. -/
def seconds (t : Timestamp) : Int := t.millis.val.tdiv 1000

/-- The timestamp of an instant: whole milliseconds toward zero, saturated.  Before the epoch the
length of time is converted first and its sign restored after, so that a length too great for a
timestamp becomes the least one. -/
def ofInstant (t : Instant) : Timestamp :=
  let length : Nat := t.nanos.natAbs / 1000000
  if 0 ≤ t.nanos then
    match BoundedInt.ofInt? (length : Int) with
    | some millis => ⟨millis⟩
    | none => ⟨.clamp 0x7fffffffffffffff⟩
  else
    match (BoundedInt.ofInt? (length : Int) : Option Signed64) with
    | some millis => ⟨.clamp (-millis.val)⟩
    | none => ⟨.clamp (-0x8000000000000000)⟩

end Timestamp

end RecordFilter
