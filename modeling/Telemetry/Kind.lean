import Telemetry.Text.Blank
/-!
# Kinds of metrics

The kind of a metric says how its tracked values become one number, and which suffix its full
name carries.
-/
namespace Telemetry

/-- How the values of a metric are summarised. Kinds are ordered as they are listed. -/
inductive Kind where
  | count | min | max | avg | gauge | stdDev
  | p50 | p75 | p95 | p98 | p99 | p999
  | rate1 | rate5 | rate15 | meanRate
deriving DecidableEq, Ord, Repr, Inhabited

namespace Kind

def all : List Kind :=
  [count, min, max, avg, gauge, stdDev, p50, p75, p95, p98, p99, p999, rate1, rate5, rate15,
    meanRate]

/-- The last part of a full name; a gauge has none. -/
def suffix : Kind → String
  | count => "count"
  | min => "min"
  | max => "max"
  | avg => "avg"
  | gauge => ""
  | stdDev => "stddev"
  | p50 => "p50"
  | p75 => "p75"
  | p95 => "p95"
  | p98 => "p98"
  | p99 => "p99"
  | p999 => "p999"
  | rate1 => "rate_1"
  | rate5 => "rate_5"
  | rate15 => "rate_15"
  | meanRate => "mean_rate"

/-- Only a count grows with every value; it alone is exposed as a counter. -/
def isCounter (k : Kind) : Bool :=
  k == count

/-- The kind a statistic's name stands for, with blanks and case ignored; a gauge if unknown. -/
def ofName (name : String) : Kind :=
  match Text.lowerAscii (Text.trim name) with
  | "mean" => avg
  | "max" => max
  | "count" => count
  | _ => gauge

theorem mem_all (k : Kind) : k ∈ all := by
  cases k <;> decide

theorem isCounter_iff {k : Kind} : k.isCounter = true ↔ k = count := by
  simp [isCounter]

end Kind

end Telemetry
