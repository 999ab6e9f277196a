import Telemetry.Accumulator
import Telemetry.Labels
import Telemetry.Time
/-!
# Metrics

A metric is a labelled accumulator that remembers, in whole milliseconds, when it was last tracked.
Reading it changes nothing; harvesting it hands out the value and starts the next window.
-/
namespace Telemetry

/-- A labelled accumulator. A metric that was never tracked has no last update; one that was has
at least millisecond 1 there. -/
structure Metric where
  labels : Labels
  kind : Kind
  accumulator : Accumulator
  lastUpdate : Option Nat := none

namespace Metric

def new (labels : Labels) (kind : Kind) : Metric :=
  { labels, kind, accumulator := .empty kind }

/-- The dotted name, without the suffix of the kind. -/
def name (m : Metric) : String :=
  m.labels.dotted

/-- The millisecond noted for a track at `now`, in 64 bits: never 0, and 1 for all times before the
epoch. -/
def stamp (now : WallTime) : Nat :=
  max (now.millis % UInt64.size) 1

def track (m : Metric) (now : WallTime) (value : Float) : Metric :=
  { m with accumulator := m.accumulator.track value, lastUpdate := some (stamp now) }

/-- Adds an amount to a counter. -/
def add (m : Metric) (now : WallTime) (amount : Float) : Metric :=
  m.track now amount

/-- Adds one to a counter. -/
def increment (m : Metric) (now : WallTime) : Metric :=
  m.track now 1

/-- A metric that has tracked `value` once, at `now`. -/
def withValue (labels : Labels) (kind : Kind) (now : WallTime) (value : Float) : Metric :=
  (new labels kind).track now value

/-- The number for the values tracked since the last reset. -/
def get (m : Metric) : Float :=
  m.accumulator.get

/-- Forgets the values tracked so far, but not when the last one came. -/
def reset (m : Metric) : Metric :=
  { m with accumulator := m.accumulator.reset }

/-- The current number, and the metric at the start of its next window. -/
def getAndReset (m : Metric) : Float × Metric :=
  (m.get, m.reset)

/-- Whether the last track, to the millisecond, lies within `window` before `now` or after it. -/
def updatedWithin (m : Metric) (now : WallTime) (window : Duration) : Bool :=
  match m.lastUpdate with
  | none => false
  | some ms => now < WallTime.ofMillis ms || now - WallTime.ofMillis ms ≤ window

@[simp] theorem labels_track (m : Metric) (now : WallTime) (v : Float) :
    (m.track now v).labels = m.labels := rfl

@[simp] theorem labels_reset (m : Metric) : m.reset.labels = m.labels := rfl

@[simp] theorem updatedWithin_reset (m : Metric) (now : WallTime) (window : Duration) :
    m.reset.updatedWithin now window = m.updatedWithin now window := rfl

theorem one_le_stamp (now : WallTime) : 1 ≤ stamp now :=
  Nat.le_max_right _ _

end Metric

end Telemetry
