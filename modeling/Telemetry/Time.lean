/-!
# Time

Durations and readings of the two clocks. A duration and a reading of the steady clock are counts
of nanoseconds; the wall clock counts nanoseconds from the epoch and may stand before it.
-/
namespace Telemetry

/-- Nanoseconds between two readings. -/
abbrev Duration := Nat

/-- A reading of the steady clock, in nanoseconds since some fixed start. -/
abbrev Instant := Nat

/-- A reading of the wall clock, in nanoseconds since the epoch. -/
abbrev WallTime := Int

namespace Duration

def ofMillis (n : Nat) : Duration := n * 1000000

def ofSeconds (n : Nat) : Duration := n * 1000000000

/-- The longest duration that can be configured: the most seconds that 64 bits count, and all
but one nanosecond of the next. -/
def longest : Duration := ofSeconds (UInt64.size - 1) + 999999999

end Duration

namespace Instant

/-- The whole seconds of a reading are kept in 63 bits. -/
def maxSeconds : Nat := UInt64.size / 2 - 1

/-- The reading `d` later, if its whole seconds can still be kept. -/
def add? (t : Instant) (d : Duration) : Option Instant :=
  if (t + d) / 1000000000 ≤ maxSeconds then some (t + d) else none

end Instant

namespace WallTime

/-- Whole milliseconds since the epoch; none before it. -/
def millis (t : WallTime) : Nat :=
  (t / 1000000).toNat

/-- Whole seconds since the epoch; none before it. -/
def seconds (t : WallTime) : Nat :=
  (t / 1000000000).toNat

/-- The reading at which `n` whole milliseconds have passed since the epoch. -/
def ofMillis (n : Nat) : WallTime :=
  (n : Int) * 1000000

end WallTime

end Telemetry
