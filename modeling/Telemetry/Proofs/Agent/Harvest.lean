import Telemetry.Agent
import Telemetry.Proofs.Agent.Registration
/-!
# What a cycle sends

A cycle takes a snapshot of each metric from its provider, if it has one, or reads the metric
itself, and copies what registries hold. Main statement: it sends one snapshot, or none if none is
due, of every metric that some registration leads to, and one of every reading of a registry.
-/
namespace Telemetry

namespace Sources

section Live

variable (s : Sources) (fleet : Fleet)

/-- The metrics to be read that are registered themselves. -/
def direct : List MetricRef :=
  (s.metrics.filter (· ∉ s.provided)).eraseDups

/-- The metrics to be read that only buckets lead to. -/
def pooled : List MetricRef :=
  ((s.buckets.flatMap fleet.members).filter fun ref =>
    ref ∉ s.provided ∧ ref ∉ s.metrics).eraseDups

theorem live_eq : s.live fleet = s.direct ++ s.pooled fleet := by
  rw [live, List.filter_append, List.eraseDups_append, direct, pooled, List.removeAll,
    List.filter_filter]
  congr 2
  apply List.filter_congr
  intro ref _
  by_cases h : ref ∈ s.provided <;> simp [h]

variable {s fleet} {ref : MetricRef}

theorem mem_direct : ref ∈ s.direct ↔ ref ∈ s.metrics ∧ ref ∉ s.provided := by
  simp [direct]

theorem mem_pooled : ref ∈ s.pooled fleet ↔
    (∃ b ∈ s.buckets, ref ∈ fleet.members b) ∧ ref ∉ s.provided ∧ ref ∉ s.metrics := by
  simp [pooled]

theorem not_mem_provided_of_mem_live (h : ref ∈ s.live fleet) : ref ∉ s.provided := by
  rw [live_eq, List.mem_append, mem_direct, mem_pooled] at h
  exact h.elim (·.2) (·.2.1)

end Live

end Sources

namespace Fleet

@[simp] theorem members_modify (f : Fleet) (ref : MetricRef) (g : Metric → Metric) :
    (f.modify ref g).members = f.members := by
  funext b
  cases ref with
  | alone i => rfl
  | member c i =>
    rw [members, members, modify, Array.getElem?_modify]
    by_cases hc : c = b
    · cases f.buckets[b]? <;> simp [hc, Bucket.modify, Bucket.size]
    · simp [hc]

end Fleet

/-- The metric is due: it was tracked lately, if that matters. -/
def AgentConfig.Due (c : AgentConfig) (now : WallTime) (m : Metric) : Prop :=
  c.onlyRecent = true → m.updatedWithin now c.collectFrequency = true

theorem AgentConfig.reads_iff_due {c : AgentConfig} {now : WallTime} {m : Metric} :
    c.reads now m = true ↔ c.Due now m := by
  cases h : c.onlyRecent <;> simp [reads, Due, h]

namespace Collection

variable (config : AgentConfig) (sources : Sources) (cycle : Nat) (now : WallTime) (fleet : Fleet)

/-- The snapshot of what a provider answers for its metric. -/
def answer (timestamp : Nat) (tags : Tags) (entry : MetricRef × Provider) : Option Snapshot :=
  (fleet.get? entry.1).bind fun m => (entry.2 cycle).map (.ofMetric m · timestamp tags)

theorem provided_snapshots (timestamp : Nat) (tags : Tags) (ps : List (MetricRef × Provider)) :
    (provided cycle timestamp tags fleet ps).1 =
      ps.filterMap (answer cycle fleet timestamp tags) := by
  induction ps with
  | nil => rfl
  | cons p ps ih =>
    obtain ⟨ref, p⟩ := p
    rw [provided, List.filterMap_cons, ← ih, answer]
    cases fleet.get? ref with
    | none => rfl
    | some m => cases hp : p cycle <;> simp [hp]

/-- What a collection takes from providers, each with the place of its metric. -/
def given : List (MetricRef × Snapshot) :=
  entries (·.1) (answer cycle fleet now.seconds sources.tags) sources.providers

/-- What it reads at some places. -/
def taken (refs : List MetricRef) : List (MetricRef × Snapshot) :=
  entries id (reading config now sources.tags fleet) refs

def copied : List Snapshot :=
  sources.registries.flatMap fun registry =>
    (registry cycle).map (·.toSnapshot now.seconds sources.tags)

variable {config sources cycle now fleet} in
theorem mem_given {ref : MetricRef} {s : Snapshot} : (ref, s) ∈ given sources cycle now fleet ↔
    ∃ m provider value, fleet.get? ref = some m ∧ (ref, provider) ∈ sources.providers ∧
      provider cycle = some value ∧ s = .ofMetric m value now.seconds sources.tags := by
  rw [given, mem_entries]
  constructor
  · rintro ⟨⟨r, provider⟩, hp, rfl, hs⟩
    obtain ⟨m, hm, hs⟩ := Option.bind_eq_some_iff.1 hs
    obtain ⟨value, hv, rfl⟩ := Option.map_eq_some_iff.1 hs
    exact ⟨m, provider, value, hm, hp, hv, rfl⟩
  · rintro ⟨m, provider, value, hm, hp, hv, rfl⟩
    refine ⟨(ref, provider), hp, rfl, ?_⟩
    simp only [answer, hm, Option.bind_some, hv, Option.map_some]

variable {config sources now fleet} in
theorem mem_taken {refs : List MetricRef} {ref : MetricRef} {s : Snapshot} :
    (ref, s) ∈ taken config sources now fleet refs ↔ ref ∈ refs ∧ ∃ m, fleet.get? ref = some m ∧
      config.Due now m ∧ s = .ofMetric m m.get now.seconds sources.tags := by
  rw [taken, mem_entries]
  constructor
  · rintro ⟨r, hr, rfl, hs⟩
    obtain ⟨m, hm, hs⟩ := Option.bind_eq_some_iff.1 hs
    split at hs
    · rename_i hc
      exact ⟨hr, m, hm, AgentConfig.reads_iff_due.1 hc, (Option.some.inj hs).symm⟩
    · cases hs
  · rintro ⟨hr, m, hm, hc, rfl⟩
    exact ⟨ref, hr, rfl, by rw [reading_of_get? hm, if_pos (AgentConfig.reads_iff_due.2 hc)]⟩

theorem all_eq_entries : (all config sources cycle now fleet).1 =
    (given sources cycle now fleet ++ taken config sources now fleet sources.direct ++
      taken config sources now fleet (sources.pooled fleet)).map (·.2) ++
      copied sources cycle now := by
  rw [all_snapshots, provided_snapshots, Sources.live_eq, List.filterMap_append, List.map_append,
    List.map_append, given, taken, taken, map_snd_entries, map_snd_entries, map_snd_entries,
    copied, List.append_assoc _ _ (List.filterMap _ _)]

theorem nodup_entries (h : sources.provided.Nodup) :
    ((given sources cycle now fleet ++ taken config sources now fleet sources.direct ++
      taken config sources now fleet (sources.pooled fleet)).map (·.1)).Nodup := by
  have hl := sources.nodup_live fleet
  rw [Sources.live_eq] at hl
  have hd : (sources.provided ++ (sources.direct ++ sources.pooled fleet)).Nodup := by
    refine List.nodup_append.2 ⟨h, hl, ?_⟩
    rintro a ha b hb rfl
    rw [← Sources.live_eq] at hb
    exact Sources.not_mem_provided_of_mem_live hb ha
  -- the places of the snapshots are some of those that the collection goes through
  refine List.Nodup.sublist ?_ hd
  rw [List.map_append, List.map_append, List.append_assoc]
  have taken_sublist (refs : List MetricRef) :
      ((taken config sources now fleet refs).map (·.1)).Sublist refs := by
    have h : ((taken config sources now fleet refs).map (·.1)).Sublist (refs.map id) :=
      map_fst_entries
    rwa [List.map_id] at h
  exact map_fst_entries.append ((taken_sublist _).append (taken_sublist _))

variable {sources} {ref : MetricRef} (h : ref ∈ sources.provided)
include h

/-- A collection leaves a metric alone that has a provider. -/
theorem get?_all_of_provided :
    (all config sources cycle now fleet).2.1.get? ref = fleet.get? ref := by
  rw [all, get?_live config now sources.tags (sources.nodup_live fleet), if_neg]
  exact fun hl => Sources.not_mem_provided_of_mem_live hl h

/-- What a collection sends does not depend on the accumulator of a metric that has a provider. -/
theorem snapshots_of_provided (accumulator : Accumulator) :
    (all config sources cycle now (fleet.modify ref ({ · with accumulator }))).1 =
      (all config sources cycle now fleet).1 := by
  have hl : sources.live (fleet.modify ref ({ · with accumulator })) = sources.live fleet := by
    simp only [Sources.live, Fleet.members_modify]
  rw [all_snapshots, all_snapshots, provided_snapshots, provided_snapshots, hl]
  congr 2
  · apply List.filterMap_congr
    intro entry _
    rw [answer, answer, Fleet.get?_modify]
    split
    · cases fleet.get? entry.1 <;> rfl
    · rfl
  · apply List.filterMap_congr
    intro r hr
    apply reading_congr
    rw [Fleet.get?_modify, if_neg]
    rintro rfl
    exact Sources.not_mem_provided_of_mem_live hr h

end Collection

open Registration

/-- What a cycle has to send after some registrations: one snapshot of each provided metric whose
latest provider has a value, one of each other metric that is due and that is registered itself, or
else was made by a registered bucket, and all that the registries hold. -/
structure Harvest (registrations : List Registration) (tags : Tags) (config : AgentConfig)
    (cycle : Nat) (now : WallTime) (fleet : Fleet)
    (given direct pooled : List (MetricRef × Snapshot)) (copied : List Snapshot) : Prop where
  once : ((given ++ direct ++ pooled).map (·.1)).Nodup
  mem_given : ∀ ref s, (ref, s) ∈ given ↔ ∃ m provider value, fleet.get? ref = some m ∧
    latestProvider? registrations ref = some provider ∧ provider cycle = some value ∧
    s = .ofMetric m value now.seconds tags
  mem_direct : ∀ ref s, (ref, s) ∈ direct ↔ ∃ m, fleet.get? ref = some m ∧
    latestProvider? registrations ref = none ∧ Direct registrations ref ∧ config.Due now m ∧
    s = .ofMetric m m.get now.seconds tags
  mem_pooled : ∀ ref s, (ref, s) ∈ pooled ↔ ∃ m, fleet.get? ref = some m ∧
    latestProvider? registrations ref = none ∧ ¬ Direct registrations ref ∧
    Pooled registrations fleet ref ∧ config.Due now m ∧ s = .ofMetric m m.get now.seconds tags
  copied_eq : copied = (registrations.filterMap registry?).flatMap fun registry =>
    (registry cycle).map fun r =>
      { labels := r.labels, kind := r.kind, value := r.value, timestamp := now.seconds, tags }

/-- An agent that was built after some registrations and has run some cycles since. -/
def Agent.registered {κ : Type} (registrations : List Registration) (tags : Tags)
    (config : AgentConfig) (client : κ) (cycles : Nat) : Agent κ :=
  { config, sources := .ofRegistrations tags registrations, client, cycles }

/-- All that an agent makes of a fleet, but for its metrics and events, is in the snapshots. -/
theorem Agent.cycle_congr {κ : Type} [BufferedClient κ] {a : Agent κ} {now : WallTime}
    {clock : Instant} {fleet fleet' : Fleet}
    (h : (Collection.all a.config a.sources a.cycles now fleet).1 =
      (Collection.all a.config a.sources a.cycles now fleet').1) :
    (a.cycle now clock fleet).1 = (a.cycle now clock fleet').1 ∧
      (a.cycle now clock fleet).2.1 = (a.cycle now clock fleet').2.1 := by
  simp only [Agent.cycle, h, and_self]

section Harvest

variable (registrations : List Registration) (tags : Tags) (config : AgentConfig) (cycle : Nat)
  (now : WallTime) (fleet : Fleet)

theorem harvest_of_registrations {sources : Sources}
    (hs : sources = .ofRegistrations tags registrations) :
    Harvest registrations tags config cycle now fleet
      (Collection.given sources cycle now fleet)
      (Collection.taken config sources now fleet sources.direct)
      (Collection.taken config sources now fleet (sources.pooled fleet))
      (Collection.copied sources cycle now) := by
  subst hs
  obtain ⟨-, -, hr, ht⟩ := Sources.kept_ofRegistrations tags registrations
  constructor
  · exact Collection.nodup_entries config _ cycle now fleet
      (Sources.nodup_provided_ofRegistrations tags registrations)
  · intro ref s
    simp only [Collection.mem_given, Sources.mem_providers_ofRegistrations, ht]
  · intro ref s
    rw [Collection.mem_taken, Sources.mem_direct, Sources.mem_metrics_ofRegistrations,
      Sources.not_mem_provided_ofRegistrations, ht]
    grind
  · intro ref s
    rw [Collection.mem_taken, Sources.mem_pooled, Sources.exists_mem_members_ofRegistrations,
      Sources.mem_metrics_ofRegistrations, Sources.not_mem_provided_ofRegistrations, ht]
    grind
  · rw [Collection.copied, hr, ht]
    rfl

variable {registrations tags config cycle now fleet} in
theorem Harvest.stamped {given direct pooled : List (MetricRef × Snapshot)} {copied : List Snapshot}
    (h : Harvest registrations tags config cycle now fleet given direct pooled copied) :
    ∀ s ∈ (given ++ direct ++ pooled).map (·.2) ++ copied,
      s.timestamp = now.seconds ∧ s.tags = tags := by
  intro s hs
  rcases List.mem_append.1 hs with hs | hs
  · obtain ⟨⟨ref, s⟩, he, rfl⟩ := List.mem_map.1 hs
    simp only [List.mem_append, or_assoc] at he
    rcases he with he | he | he
    · obtain ⟨m, _, _, -, -, -, rfl⟩ := (h.mem_given ref s).1 he
      exact ⟨rfl, rfl⟩
    · obtain ⟨m, -, -, -, -, rfl⟩ := (h.mem_direct ref s).1 he
      exact ⟨rfl, rfl⟩
    · obtain ⟨m, -, -, -, -, -, rfl⟩ := (h.mem_pooled ref s).1 he
      exact ⟨rfl, rfl⟩
  · rw [h.copied_eq] at hs
    obtain ⟨registry, -, hs⟩ := List.mem_flatMap.1 hs
    obtain ⟨r, -, rfl⟩ := List.mem_map.1 hs
    exact ⟨rfl, rfl⟩

end Harvest

end Telemetry
