import Telemetry.Metric
import Telemetry.Tags
/-!
# Snapshots

A snapshot is one value of a metric at one time, with the tags of the process. Snapshots, not
metrics, are what publishers receive.
-/
namespace Telemetry

/-- A value taken from a metric. The time is in seconds since the epoch. -/
structure Snapshot where
  labels : Labels
  kind : Kind
  value : Float
  timestamp : Nat := 0
  tags : Tags := {}

/-- A value offered by an outside registry, with its name and kind. -/
structure Reading where
  labels : Labels
  kind : Kind
  value : Float

namespace Snapshot

/-- The snapshot of `m` that reports `value`. -/
def ofMetric (m : Metric) (value : Float) (timestamp : Nat) (tags : Tags) : Snapshot :=
  { labels := m.labels, kind := m.kind, value, timestamp, tags }

/-- The dotted name, without the suffix of the kind. -/
def name (s : Snapshot) : String :=
  s.labels.dotted

/-- The dotted name with the suffix of the kind, if the kind has one. -/
def fullName (s : Snapshot) : String :=
  if s.kind.suffix.isEmpty then s.name else s.name ++ "." ++ s.kind.suffix

def withValue (s : Snapshot) (value : Float) : Snapshot :=
  { s with value }

/-- Two snapshots are the same when all parts are and their values are equal as numbers: a value
that is no number differs from itself, and zero equals minus zero. -/
def same (s t : Snapshot) : Bool :=
  s.labels == t.labels && s.kind == t.kind && s.value == t.value && s.timestamp == t.timestamp &&
    s.tags == t.tags

end Snapshot

/-- The reading as a snapshot taken at `timestamp` in a process with `tags`. -/
def Reading.toSnapshot (r : Reading) (timestamp : Nat) (tags : Tags) : Snapshot :=
  { labels := r.labels, kind := r.kind, value := r.value, timestamp, tags }

end Telemetry
