import Telemetry.Client.Recorder
import Telemetry.Proofs.Agent.Ledger
/-!
# Windows of tracked values

Main statement: the values tracked on a metric fall into windows, one for each cycle that sends the
metric, and what is sent is what the kind of the metric says of its window, or of all values so far
if nobody but the publishers turns counters into amounts per cycle.
-/
namespace Telemetry.World

variable {κ : Type}

/-- A ledger tells what became of the values tracked on the metric at `ref`. -/
structure Windowed [BufferedClient κ] (ref : MetricRef) (kind : Kind) (tracked : List Float)
    (w : World κ) (l : Ledger) : Prop where
  values : l.values = tracked
  separate : kind ≠ .count ∨ w.agent.config.counterReset = .agent →
    ∀ window ∈ l.closed, kind.Summarises window.1 window.2
  growing : kind = .count → w.agent.config.counterReset = .publisher →
    ∀ earlier window later, l.closed = earlier ++ window :: later →
      kind.Summarises (earlier.flatMap (·.1) ++ window.1) window.2
  sent : ∀ now, w.sent now =
    (Collection.provided w.agent.cycles now.seconds w.agent.sources.tags w.fleet
      w.agent.sources.providers).1 ++
      (w.agent.sources.live w.fleet).filterMap (w.reading now) ++
      w.agent.sources.registries.flatMap fun registry =>
        (registry w.agent.cycles).map (·.toSnapshot now.seconds w.agent.sources.tags)
  once : (w.agent.sources.live w.fleet).count ref = 1
  skips : ∀ now, w.reading now ref = none ↔ w.agent.config.onlyRecent = true ∧
    ∀ m ∈ w.fleet.get? ref, m.updatedWithin now w.agent.config.collectFrequency = false
  kept : ∀ now clock, w.reading now ref = none →
    (w.cycle now clock).fleet.get? ref = w.fleet.get? ref

theorem Windowed.of_booked [BufferedClient κ] {ref : MetricRef} {labels : Labels} {kind : Kind}
    {w : World κ} {l : Ledger} (h : Booked ref labels kind w l) :
    Windowed ref kind l.values w l where
  values := rfl
  separate := by
    intro hk window hw
    obtain ⟨earlier, later, hl⟩ := List.append_of_mem hw
    have hs := h.sums earlier window later hl
    rwa [AgentConfig.resets_eq_true.2 hk] at hs
  growing := by
    intro hk hp earlier window later hl
    have hs := h.sums earlier window later hl
    rwa [AgentConfig.resets_eq_false.2 ⟨hk, hp⟩] at hs
  sent := w.sent_eq
  once := List.count_eq_one_of_mem (w.agent.sources.nodup_live w.fleet) h.mem_live
  skips := by
    intro now
    obtain ⟨lastUpdate, hm⟩ := h.metric
    rw [reading, Collection.reading_of_get? hm, hm]
    simp [AgentConfig.reads]
  kept _ clock hs := h.get?_of_skipped clock hs

private def peaked : World Recorder where
  agent := { config := {}, sources := { metrics := [.alone 0] }, client := {} }
  fleet := { metrics := #[.new (.ofName "queue") .max] }

-- the second cycle comes too long after the first track to send the metric
private def spell : List Activity :=
  [.track (.alone 0) 1000000000 3, .cycle 2000000000 0, .cycle 90000000000 1,
    .track (.alone 0) 100000000000 1, .track (.alone 0) 110000000000 2, .cycle 120000000000 2]

end Telemetry.World
