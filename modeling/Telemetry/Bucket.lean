import Telemetry.Metric
/-!
# Buckets

A bucket shares a base name and label names among metrics that differ in label values. A metric
comes into being when its combination of values is first looked up, and the same combination leads
to the same metric ever after. Metrics are addressed by their place, in order of first look-up.
-/
namespace Telemetry

/-- The metrics made from one set of parent labels, no two with the same labels. -/
structure Bucket where
  parent : Labels
  kind : Kind
  metrics : Array Metric := #[]

namespace Bucket

def ofName (name : String) (kind : Kind) : Bucket :=
  { parent := .ofName name, kind }

/-- A bucket whose metrics differ in the values behind the name. -/
def withBackNames (name : String) (kind : Kind) (backNames : List String) : Bucket :=
  { parent := { name, backNames }, kind }

/-- A bucket whose metrics differ in the values before and behind the name. -/
def withLabelNames (name : String) (kind : Kind) (frontName : String) (backNames : List String) :
    Bucket :=
  { parent := { name, frontName := some frontName, backNames }, kind }

def size (b : Bucket) : Nat :=
  b.metrics.size

/-- The place of the metric with these labels, if it has been looked up. -/
def find? (b : Bucket) (labels : Labels) : Option Nat :=
  b.metrics.findIdx? (·.labels == labels.normalize)

/-- The place of the metric with these labels, which is made if need be. -/
def lookup (b : Bucket) (labels : Labels) : Nat × Bucket :=
  match b.find? labels with
  | some i => (i, b)
  | none =>
    (b.metrics.size, { b with metrics := b.metrics.push (.new labels.normalize b.kind) })

/-- A combination of label values asked of a bucket. -/
inductive Key where
  | parent
  | suffix (value : String)
  | suffixes (values : List String)
  | front (value : String)
  | both (first : String) (values : List String)
deriving DecidableEq, Repr

/-- The labels that a key stands for under the parent's. -/
def Key.labels (key : Key) (parent : Labels) : Labels :=
  match key with
  | .parent => parent
  | .suffix value => { parent with backValues := [value] }
  | .suffixes values => { parent with backValues := values }
  | .front value => { parent with frontValue := some value }
  | .both first values => { parent with frontValue := some first, backValues := values }

/-- The place of the metric for a key, which is made if need be. -/
def get (b : Bucket) (key : Key) : Nat × Bucket :=
  b.lookup (key.labels b.parent)

def modify (b : Bucket) (i : Nat) (f : Metric → Metric) : Bucket :=
  { b with metrics := b.metrics.modify i f }

@[simp] theorem kind_lookup (b : Bucket) (labels : Labels) : (b.lookup labels).2.kind = b.kind := by
  rw [lookup]
  split <;> rfl

@[simp] theorem parent_lookup (b : Bucket) (labels : Labels) :
    (b.lookup labels).2.parent = b.parent := by
  rw [lookup]
  split <;> rfl

end Bucket

end Telemetry
