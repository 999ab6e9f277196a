import Telemetry.Fleet
import Telemetry.Snapshot
/-!
# Sources of an agent

What an agent reads in every cycle: metrics and buckets of a fleet, providers that stand in for the
value of a metric, and outside registries.
-/
namespace Telemetry

/-- What a provider answers to its call of a number, counted from zero. -/
abbrev Provider := (call : Nat) → Option Float

/-- The entry of a list for a call; the last one stands for all later calls. -/
def forCall {α : Type} (entries : List α) (call : Nat) : Option α :=
  entries[min call (entries.length - 1)]?

/-- A provider whose answers are laid down beforehand. -/
def Provider.ofList (values : List (Option Float)) : Provider :=
  fun call => (forCall values call).join

/-- What an outside registry holds at its call of a number, counted from zero. -/
abbrev ReadingSource := (call : Nat) → List Reading

/-- A registry whose readings are laid down beforehand. -/
def ReadingSource.ofList (entries : List (List Reading)) : ReadingSource :=
  fun call => (forCall entries call).getD []

/-- All that is registered with an agent. No metric has two providers. -/
structure Sources where
  metrics : List MetricRef := []
  buckets : List Nat := []
  providers : List (MetricRef × Provider) := []
  registries : List ReadingSource := []
  /-- The tags of all snapshots. -/
  tags : Tags := {}

namespace Sources

def addMetric (s : Sources) (ref : MetricRef) : Sources :=
  { s with metrics := s.metrics ++ [ref] }

def addBucket (s : Sources) (b : Nat) : Sources :=
  { s with buckets := s.buckets ++ [b] }

/-- A provider takes the place of an earlier one of the same metric, but at the end. -/
def addProvider (s : Sources) (ref : MetricRef) (provider : Provider) : Sources :=
  { s with providers := s.providers.filter (·.1 != ref) ++ [(ref, provider)] }

def addRegistry (s : Sources) (registry : ReadingSource) : Sources :=
  { s with registries := s.registries ++ [registry] }

/-- The metrics that have providers. -/
def provided (s : Sources) : List MetricRef :=
  s.providers.map (·.1)

/-- The metrics to be read themselves, each once: those registered, then those of the buckets. -/
def live (s : Sources) (fleet : Fleet) : List MetricRef :=
  ((s.metrics ++ s.buckets.flatMap fleet.members).filter (· ∉ s.provided)).eraseDups

theorem nodup_provided_addProvider {s : Sources} (h : s.provided.Nodup) (ref : MetricRef)
    (provider : Provider) : (s.addProvider ref provider).provided.Nodup := by
  have kept : ((s.providers.filter (·.1 != ref)).map (·.1)).Nodup :=
    h.sublist ((List.filter_sublist (l := s.providers)).map (·.1))
  simp only [provided, addProvider, List.map_append, List.map_cons, List.map_nil]
  refine List.nodup_append.2 ⟨kept, by simp, ?_⟩
  rintro a ha b hb rfl
  obtain ⟨entry, he, rfl⟩ := List.mem_map.1 ha
  simp_all

end Sources

end Telemetry
