import Telemetry.Agent.Collection
import Telemetry.Proofs.Firsts
/-!
# What a collection reads

The metrics that an agent reads itself are named once each, so that reading one of them does not
depend on when in the pass it is read, and changes no other.
-/
namespace Telemetry

theorem Fleet.mem_members {fleet : Fleet} {b : Nat} {ref : MetricRef} :
    ref ∈ fleet.members b ↔ (∃ i, ref = .member b i) ∧ (fleet.get? ref).isSome := by
  rw [members]
  constructor
  · intro h
    split at h
    · rename_i bucket hb
      obtain ⟨i, hi, rfl⟩ := List.mem_map.1 h
      have hi : i < bucket.metrics.size := List.mem_range.1 hi
      refine ⟨⟨i, rfl⟩, ?_⟩
      simp [get?, hb, hi]
    · simp at h
  · rintro ⟨⟨i, rfl⟩, h⟩
    cases hb : fleet.buckets[b]? with
    | none => simp [get?, hb] at h
    | some bucket =>
      have hi : i < bucket.metrics.size := by simpa [get?, hb] using h
      exact List.mem_map.2 ⟨i, List.mem_range.2 hi, rfl⟩

namespace Sources

/-- Some registration leads to the metric and no provider stands in for it. -/
def Reaches (s : Sources) (ref : MetricRef) : Prop :=
  (ref ∈ s.metrics ∨ ∃ b ∈ s.buckets, ∃ i, ref = .member b i) ∧ ref ∉ s.provided

theorem nodup_live (s : Sources) (fleet : Fleet) : (s.live fleet).Nodup :=
  nodup_eraseDups _

theorem mem_live {s : Sources} {fleet : Fleet} {ref : MetricRef} (h : (fleet.get? ref).isSome) :
    ref ∈ s.live fleet ↔ s.Reaches ref := by
  simp only [live, List.mem_eraseDups, List.mem_filter, List.mem_append, List.mem_flatMap,
    Fleet.mem_members, h, and_true, decide_eq_true_eq, Reaches]

end Sources

/-- The metric after a cycle at `now` that comes to it. -/
def AgentConfig.collected (c : AgentConfig) (now : WallTime) (m : Metric) : Metric :=
  if c.reads now m then c.afterRead m else m

namespace Collection

section Entries

variable {α : Type} {place : α → MetricRef} {read : α → Option Snapshot} {xs : List α}

/-- What is read of some things, each with the place of its metric. -/
def entries (place : α → MetricRef) (read : α → Option Snapshot) (xs : List α) :
    List (MetricRef × Snapshot) :=
  xs.filterMap fun x => (read x).map (place x, ·)

theorem map_snd_entries : (entries place read xs).map (·.2) = xs.filterMap read := by
  rw [entries, List.map_filterMap]
  congr 1
  funext x
  cases read x <;> rfl

theorem map_fst_entries : ((entries place read xs).map (·.1)).Sublist (xs.map place) := by
  induction xs with
  | nil => exact .slnil
  | cons x xs ih =>
    rw [entries, List.filterMap_cons, List.map_cons]
    cases read x with
    | none => exact ih.cons _
    | some s => exact ih.cons_cons _

theorem mem_entries {ref : MetricRef} {s : Snapshot} :
    (ref, s) ∈ entries place read xs ↔ ∃ x ∈ xs, place x = ref ∧ read x = some s := by
  simp only [entries, List.mem_filterMap, Option.map_eq_some_iff, Prod.mk.injEq]
  refine exists_congr fun x => and_congr_right fun _ => ⟨?_, ?_⟩
  · rintro ⟨s, hs, hx, rfl⟩
    exact ⟨hx, hs⟩
  · rintro ⟨hx, hs⟩
    exact ⟨s, hs, hx, rfl⟩

end Entries

variable (config : AgentConfig) (now : WallTime) (tags : Tags)

/-- The snapshot of the metric at a place, unless it is left out. -/
def reading (fleet : Fleet) (ref : MetricRef) : Option Snapshot :=
  (fleet.get? ref).bind fun m =>
    if config.reads now m then some (.ofMetric m m.get now.seconds tags) else none

variable {config now tags}

theorem reading_congr {fleet fleet' : Fleet} {ref : MetricRef}
    (h : fleet.get? ref = fleet'.get? ref) :
    reading config now tags fleet ref = reading config now tags fleet' ref := by
  rw [reading, reading, h]

theorem reading_of_get? {fleet : Fleet} {ref : MetricRef} {m : Metric}
    (h : fleet.get? ref = some m) : reading config now tags fleet ref =
      if config.reads now m then some (.ofMetric m m.get now.seconds tags) else none := by
  rw [reading, h, Option.bind_some]

variable (config now tags)

/-- Every metric is read as it was before the pass. -/
theorem live_snapshots {refs : List MetricRef} (h : refs.Nodup) (fleet : Fleet) :
    (live config now tags refs fleet).1 = refs.filterMap (reading config now tags fleet) := by
  induction refs generalizing fleet with
  | nil => rfl
  | cons ref rest ih =>
    obtain ⟨hn, hr⟩ := List.nodup_cons.1 h
    rw [live, List.filterMap_cons]
    cases hm : fleet.get? ref with
    | none => simp only [reading, hm, Option.bind_none, ih hr]
    | some m =>
      rw [reading_of_get? hm]
      by_cases hc : config.reads now m
      · have hrest : rest.filterMap (reading config now tags (fleet.modify ref config.afterRead)) =
            rest.filterMap (reading config now tags fleet) := by
          apply List.filterMap_congr
          intro r hm
          apply reading_congr
          rw [Fleet.get?_modify, if_neg]
          rintro rfl
          exact hn hm
        simp only [hc, if_true, ih hr, hrest]
      · simp only [hc, Bool.false_eq_true, if_false, ih hr]

/-- A pass collects the metrics it comes to and leaves all others alone. -/
theorem get?_live {refs : List MetricRef} (h : refs.Nodup) (fleet : Fleet) (ref : MetricRef) :
    (live config now tags refs fleet).2.1.get? ref =
      if ref ∈ refs then (fleet.get? ref).map (config.collected now) else fleet.get? ref := by
  induction refs generalizing fleet with
  | nil => rfl
  | cons r rest ih =>
    obtain ⟨hn, hr⟩ := List.nodup_cons.1 h
    rw [live]
    by_cases he : r = ref
    · subst he
      rw [if_pos List.mem_cons_self]
      cases hm : fleet.get? r with
      | none => simp only [ih hr, if_neg hn, hm, Option.map_none]
      | some m =>
        by_cases hc : config.reads now m
        · simp only [hc, if_true, ih hr, if_neg hn, Fleet.get?_modify, hm, Option.map_some,
            AgentConfig.collected]
        · simp only [hc, Bool.false_eq_true, if_false, ih hr, if_neg hn, hm, Option.map_some,
            AgentConfig.collected]
    · have hmem : ref ∈ r :: rest ↔ ref ∈ rest := by
        rw [List.mem_cons, or_iff_right (Ne.symm he)]
      simp only [hmem]
      cases hm : fleet.get? r with
      | none => simp only [ih hr]
      | some m =>
        by_cases hc : config.reads now m
        · simp only [hc, if_true, ih hr, Fleet.get?_modify, if_neg he]
        · simp only [hc, Bool.false_eq_true, if_false, ih hr]

variable (sources : Sources) (cycle : Nat) (fleet : Fleet)

theorem all_snapshots : (all config sources cycle now fleet).1 =
    (provided cycle now.seconds sources.tags fleet sources.providers).1 ++
      (sources.live fleet).filterMap (reading config now sources.tags fleet) ++
      sources.registries.flatMap fun registry =>
        (registry cycle).map (·.toSnapshot now.seconds sources.tags) := by
  rw [all, ← live_snapshots config now sources.tags (sources.nodup_live fleet) fleet]

theorem get?_all {ref : MetricRef} (h : sources.Reaches ref) :
    (all config sources cycle now fleet).2.1.get? ref =
      (fleet.get? ref).map (config.collected now) := by
  rw [all, get?_live config now sources.tags (sources.nodup_live fleet)]
  cases hm : fleet.get? ref with
  | none => rw [Option.map_none, ite_self]
  | some m =>
    rw [if_pos]
    rw [Sources.mem_live (by rw [hm, Option.isSome_some])]
    exact h

end Collection

end Telemetry
