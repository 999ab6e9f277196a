import Telemetry.Bucket
/-!
# Fleets of metrics

All metrics of a process: those that stand alone, and those made by its buckets. A metric is known
by its place, which never changes; two metrics may well have the same labels.
-/
namespace Telemetry

/-- The place of a metric: one that stands alone, or the member of a bucket. -/
inductive MetricRef where
  | alone (i : Nat)
  | member (bucket i : Nat)
deriving DecidableEq, Repr

structure Fleet where
  metrics : Array Metric := #[]
  buckets : Array Bucket := #[]

namespace Fleet

def get? (f : Fleet) : MetricRef → Option Metric
  | .alone i => f.metrics[i]?
  | .member b i => f.buckets[b]?.bind fun bucket => bucket.metrics[i]?

def modify (f : Fleet) (ref : MetricRef) (g : Metric → Metric) : Fleet :=
  match ref with
  | .alone i => { f with metrics := f.metrics.modify i g }
  | .member b i => { f with buckets := f.buckets.modify b fun bucket => bucket.modify i g }

def track (f : Fleet) (now : WallTime) (ref : MetricRef) (value : Float) : Fleet :=
  f.modify ref fun m => m.track now value

/-- The place of a bucket's metric for a key, which is made if need be. -/
def lookup? (f : Fleet) (b : Nat) (key : Bucket.Key) : Option (MetricRef × Fleet) :=
  f.buckets[b]?.map fun bucket =>
    let (i, bucket) := bucket.get key
    (.member b i, { f with buckets := f.buckets.setIfInBounds b bucket })

/-- The places of all metrics that a bucket has made. A bucket has no order that could be relied on;
here it is that of first look-up. -/
def members (f : Fleet) (b : Nat) : List MetricRef :=
  match f.buckets[b]? with
  | some bucket => (List.range bucket.size).map (.member b)
  | none => []

theorem get?_modify (f : Fleet) (ref other : MetricRef) (g : Metric → Metric) :
    (f.modify ref g).get? other = if ref = other then (f.get? other).map g else f.get? other := by
  cases ref <;> cases other
  · simp [modify, get?, Array.getElem?_modify]
  · simp [modify, get?]
  · simp [modify, get?]
  · rename_i b i c j
    simp only [modify, get?, Array.getElem?_modify, MetricRef.member.injEq]
    by_cases hb : b = c
    · subst hb
      cases f.buckets[b]? <;> by_cases hi : i = j <;>
        simp [Bucket.modify, Array.getElem?_modify, hi]
    · simp [hb]

end Fleet

end Telemetry
