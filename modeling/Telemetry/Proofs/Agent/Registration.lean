import Mathlib.Data.List.Induction
import Telemetry.Proofs.Agent.Collection
/-!
# Registrations

Metrics, buckets, providers and registries are registered with an agent one after the other, each
as often as one likes. What an agent has to read is told from the list of its registrations: all of
them count but the providers that a later one of the same metric replaces.
-/
namespace Telemetry

/-- Something that is registered with an agent before it is built. -/
inductive Registration where
  | metric (ref : MetricRef)
  | bucket (b : Nat)
  | provider (ref : MetricRef) (provider : Provider)
  | registry (registry : ReadingSource)

namespace Registration

def metric? : Registration → Option MetricRef
  | metric ref => some ref
  | _ => none

def bucket? : Registration → Option Nat
  | bucket b => some b
  | _ => none

def providerFor? (ref : MetricRef) : Registration → Option Provider
  | provider r p => if r = ref then some p else none
  | _ => none

def registry? : Registration → Option ReadingSource
  | registry r => some r
  | _ => none

/-- The provider registered last for a metric. -/
def latestProvider? (registrations : List Registration) (ref : MetricRef) : Option Provider :=
  (registrations.filterMap (providerFor? ref)).getLast?

/-- The metric is registered itself. -/
def Direct (registrations : List Registration) (ref : MetricRef) : Prop :=
  metric ref ∈ registrations

/-- The metric was made by a bucket that is registered. -/
def Pooled (registrations : List Registration) (fleet : Fleet) (ref : MetricRef) : Prop :=
  ∃ b, bucket b ∈ registrations ∧ ref ∈ fleet.members b

end Registration

namespace Sources

open Registration

def register (s : Sources) : Registration → Sources
  | .metric ref => s.addMetric ref
  | .bucket b => s.addBucket b
  | .provider ref p => s.addProvider ref p
  | .registry r => s.addRegistry r

/-- All that an agent has to read after some registrations. -/
def ofRegistrations (tags : Tags) (registrations : List Registration) : Sources :=
  registrations.foldl register { tags }

section Registered

variable (tags : Tags) (registrations : List Registration)

theorem ofRegistrations_concat (r : Registration) :
    ofRegistrations tags (registrations ++ [r]) = (ofRegistrations tags registrations).register r :=
  List.foldl_concat ..

/-- Metrics, buckets and registries are kept in the order in which they are registered. -/
theorem kept_ofRegistrations :
    (ofRegistrations tags registrations).metrics = registrations.filterMap metric? ∧
      (ofRegistrations tags registrations).buckets = registrations.filterMap bucket? ∧
      (ofRegistrations tags registrations).registries = registrations.filterMap registry? ∧
      (ofRegistrations tags registrations).tags = tags := by
  induction registrations using List.reverseRecOn with
  | nil => exact ⟨rfl, rfl, rfl, rfl⟩
  | append_singleton registrations r ih =>
    obtain ⟨hm, hb, hr, ht⟩ := ih
    rw [ofRegistrations_concat, List.filterMap_append, List.filterMap_append,
      List.filterMap_append, ← hm, ← hb, ← hr]
    cases r <;> simp [register, metric?, bucket?, registry?, addMetric, addBucket, addProvider,
      addRegistry, ht]

theorem nodup_provided_ofRegistrations :
    (ofRegistrations tags registrations).provided.Nodup := by
  induction registrations using List.reverseRecOn with
  | nil => exact List.nodup_nil
  | append_singleton registrations r ih =>
    rw [ofRegistrations_concat]
    cases r with
    | provider ref p => exact nodup_provided_addProvider ih ref p
    | _ => exact ih

/-- The provider that counts for a metric is the one registered last. -/
theorem mem_providers_ofRegistrations {ref : MetricRef} {p : Provider} :
    (ref, p) ∈ (ofRegistrations tags registrations).providers ↔
      latestProvider? registrations ref = some p := by
  induction registrations using List.reverseRecOn with
  | nil => simp [ofRegistrations, latestProvider?]
  | append_singleton registrations r ih =>
    rw [ofRegistrations_concat, latestProvider?, List.filterMap_append]
    cases r with
    | provider r q =>
      by_cases hr : r = ref
      · simp [register, addProvider, providerFor?, hr, eq_comm]
      · simp [register, addProvider, providerFor?, hr, Ne.symm hr, ih, latestProvider?]
    | _ => simpa [register, providerFor?, addMetric, addBucket, addRegistry, latestProvider?] using ih

theorem mem_provided_ofRegistrations {ref : MetricRef} :
    ref ∈ (ofRegistrations tags registrations).provided ↔
      (latestProvider? registrations ref).isSome := by
  rw [provided, List.mem_map, Option.isSome_iff_exists]
  constructor
  · rintro ⟨⟨r, p⟩, h, rfl⟩
    exact ⟨p, (mem_providers_ofRegistrations tags registrations).1 h⟩
  · rintro ⟨p, h⟩
    exact ⟨(ref, p), (mem_providers_ofRegistrations tags registrations).2 h, rfl⟩

theorem mem_metrics_ofRegistrations {ref : MetricRef} :
    ref ∈ (ofRegistrations tags registrations).metrics ↔ Direct registrations ref := by
  rw [(kept_ofRegistrations tags registrations).1, List.mem_filterMap, Direct]
  constructor
  · rintro ⟨r, hr, he⟩
    cases r <;> cases he
    exact hr
  · exact fun hr => ⟨_, hr, rfl⟩

theorem exists_mem_members_ofRegistrations {fleet : Fleet} {ref : MetricRef} :
    (∃ b ∈ (ofRegistrations tags registrations).buckets, ref ∈ fleet.members b) ↔
      Pooled registrations fleet ref := by
  simp only [(kept_ofRegistrations tags registrations).2.1, List.mem_filterMap, Pooled]
  constructor
  · rintro ⟨b, ⟨r, hr, he⟩, hf⟩
    cases r <;> cases he
    exact ⟨b, hr, hf⟩
  · rintro ⟨b, hr, hf⟩
    exact ⟨b, ⟨_, hr, rfl⟩, hf⟩

theorem not_mem_provided_ofRegistrations {ref : MetricRef} :
    ref ∉ (ofRegistrations tags registrations).provided ↔
      latestProvider? registrations ref = none := by
  rw [mem_provided_ofRegistrations, Option.not_isSome_iff_eq_none]

end Registered

end Sources

end Telemetry
