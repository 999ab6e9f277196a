import Telemetry.Agent
import Telemetry.Proofs.Agent.Collection
/-!
# Runs of an agent

An agent among the metrics of its process, where values are tracked, buckets make new metrics and
the agent runs its cycles, in any order and at any readings of the clocks.
-/
namespace Telemetry

/-- Something that happens in a process with an agent. -/
inductive Activity where
  | track (ref : MetricRef) (now : WallTime) (value : Float)
  | lookup (bucket : Nat) (key : Bucket.Key)
  | cycle (now : WallTime) (clock : Instant)

def Activity.trackedOn? (ref : MetricRef) : Activity → Option Float
  | track r _ value => if r = ref then some value else none
  | _ => none

/-- An agent and the metrics of its process. -/
structure World (κ : Type) where
  agent : Agent κ
  fleet : Fleet

namespace Bucket

theorem getElem?_lookup {b : Bucket} {i : Nat} {m : Metric} (labels : Labels)
    (h : b.metrics[i]? = some m) : (b.lookup labels).2.metrics[i]? = some m := by
  rw [lookup]
  split
  · exact h
  · have hi : i < b.metrics.size := (Array.getElem?_eq_some_iff.1 h).1
    rw [Array.getElem?_push_lt hi, ← h, Array.getElem?_eq_getElem hi]

end Bucket

namespace Fleet

/-- The fleet after a bucket was asked for a metric. -/
def lookup (f : Fleet) (b : Nat) (key : Bucket.Key) : Fleet :=
  ((f.lookup? b key).map (·.2)).getD f

/-- A metric that is there is not changed when a bucket is asked for another. -/
theorem get?_lookup {f : Fleet} {ref : MetricRef} {m : Metric} (b : Nat) (key : Bucket.Key)
    (h : f.get? ref = some m) : (f.lookup b key).get? ref = some m := by
  rw [lookup, lookup?]
  cases hb : f.buckets[b]? with
  | none => exact h
  | some bucket =>
    simp only [Option.map_some, Option.getD_some]
    cases ref with
    | alone i => exact h
    | member c i =>
      simp only [get?, Array.getElem?_setIfInBounds] at h ⊢
      by_cases hc : b = c
      · subst hc
        have hl : b < f.buckets.size := (Array.getElem?_eq_some_iff.1 hb).1
        rw [hb, Option.bind_some] at h
        rw [if_pos rfl, if_pos hl, Option.bind_some]
        exact Bucket.getElem?_lookup _ h
      · rwa [if_neg hc]

theorem get?_track (f : Fleet) (r ref : MetricRef) (now : WallTime) (value : Float) :
    (f.track now r value).get? ref =
      if r = ref then (f.get? ref).map (·.track now value) else f.get? ref :=
  f.get?_modify r ref _

end Fleet

namespace World

variable {κ : Type}

/-- The snapshots that a cycle at `now` sends. -/
def sent (w : World κ) (now : WallTime) : List Snapshot :=
  (Collection.all w.agent.config w.agent.sources w.agent.cycles now w.fleet).1

/-- The snapshot that a cycle at `now` sends of the metric at a place. -/
def reading (w : World κ) (now : WallTime) (ref : MetricRef) : Option Snapshot :=
  Collection.reading w.agent.config now w.agent.sources.tags w.fleet ref

/-- What the providers give comes first, then what is read, then what is copied. -/
theorem sent_eq (w : World κ) (now : WallTime) : w.sent now =
    (Collection.provided w.agent.cycles now.seconds w.agent.sources.tags w.fleet
      w.agent.sources.providers).1 ++
      (w.agent.sources.live w.fleet).filterMap (w.reading now) ++
      w.agent.sources.registries.flatMap fun registry =>
        (registry w.agent.cycles).map (·.toSnapshot now.seconds w.agent.sources.tags) :=
  Collection.all_snapshots w.agent.config now w.agent.sources w.agent.cycles w.fleet

variable [BufferedClient κ]

def cycle (w : World κ) (now : WallTime) (clock : Instant) : World κ :=
  let (_, agent, fleet, _) := w.agent.cycle now clock w.fleet
  { agent, fleet }

def act (w : World κ) : Activity → World κ
  | .track ref now value => { w with fleet := w.fleet.track now ref value }
  | .lookup b key => { w with fleet := w.fleet.lookup b key }
  | .cycle now clock => w.cycle now clock

def run (w : World κ) (activities : List Activity) : World κ :=
  activities.foldl act w

variable (w : World κ)

theorem fleet_cycle (now : WallTime) (clock : Instant) : (w.cycle now clock).fleet =
    (Collection.all w.agent.config w.agent.sources w.agent.cycles now w.fleet).2.1 := rfl

@[simp] theorem config_act (a : Activity) : (w.act a).agent.config = w.agent.config := by
  cases a <;> rfl

@[simp] theorem sources_act (a : Activity) : (w.act a).agent.sources = w.agent.sources := by
  cases a <;> rfl

@[simp] theorem sources_run (activities : List Activity) :
    (w.run activities).agent.sources = w.agent.sources := by
  induction activities generalizing w with
  | nil => rfl
  | cons a activities ih => exact (ih (w.act a)).trans (w.sources_act a)

end World

end Telemetry
