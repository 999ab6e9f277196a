import Telemetry.Client.Recorder
import Telemetry.Proofs.Agent.Harvest
import Telemetry.Proofs.Agent.Run
import Telemetry.Proofs.Metric.Recency
/-!
# Recently tracked metrics

An agent may leave out metrics that were not tracked within the last period. The time of a track is
kept in whole milliseconds while clocks are read in nanoseconds. Main statement: which of the values
tracked before a cycle make the next cycle, one period later, send the metric.
-/
namespace Telemetry

/-- The reading of the wall clock at which the metric at `ref` is tracked. -/
def Activity.trackTime? (ref : MetricRef) : Activity → Option WallTime
  | track r now _ => if r = ref then some now else none
  | _ => none

/-- When the metric at `ref` is tracked over some activities, in order. -/
def trackTimes (ref : MetricRef) (activities : List Activity) : List WallTime :=
  activities.filterMap (Activity.trackTime? ref)

theorem le_getLast?_of_mem {times : List WallTime} (h : times.Pairwise (· ≤ ·)) {t : WallTime}
    (ht : t ∈ times) : ∃ last ∈ times.getLast?, t ≤ last := by
  rcases List.eq_nil_or_concat times with rfl | ⟨earlier, last, rfl⟩
  · cases ht
  · rw [List.concat_eq_append] at h ht ⊢
    refine ⟨last, List.getLast?_concat, ?_⟩
    rcases List.mem_append.1 ht with ht | ht
    · exact (List.pairwise_append.1 h).2.2 t ht last (List.mem_singleton_self last)
    · exact Int.le_of_eq (List.mem_singleton.1 ht)

namespace Metric

theorem lastUpdate_collected (config : AgentConfig) (now : WallTime) (m : Metric) :
    (config.collected now m).lastUpdate = m.lastUpdate := by
  rw [AgentConfig.collected, AgentConfig.afterRead]
  split
  · split <;> rfl
  · rfl

end Metric

namespace World

variable {κ : Type} {ref : MetricRef} {w : World κ} {m : Metric}

/-- What a cycle at `now` reads itself, each with the place of its metric. -/
def taken (w : World κ) (now : WallTime) : List (MetricRef × Snapshot) :=
  Collection.taken w.agent.config w.agent.sources now w.fleet (w.agent.sources.live w.fleet)

/-- A cycle at `now` sends a snapshot of the metric at `ref`. -/
def Reports (w : World κ) (now : WallTime) (ref : MetricRef) : Prop :=
  ∃ s, (ref, s) ∈ w.taken now

theorem reports_iff (hr : w.agent.sources.Reaches ref) (hm : w.fleet.get? ref = some m)
    {now : WallTime} : w.Reports now ref ↔ w.agent.config.Due now m := by
  have hl : ref ∈ w.agent.sources.live w.fleet := by
    rw [Sources.mem_live (by rw [hm, Option.isSome_some])]
    exact hr
  simp only [Reports, taken, Collection.mem_taken, hl, true_and, hm, Option.some.injEq]
  constructor
  · rintro ⟨_, _, rfl, hd, -⟩
    exact hd
  · exact fun hd => ⟨_, m, rfl, hd, rfl⟩

variable [BufferedClient κ]

@[simp] theorem config_run (w : World κ) (activities : List Activity) :
    (w.run activities).agent.config = w.agent.config := by
  induction activities generalizing w with
  | nil => rfl
  | cons a activities ih => exact (ih (w.act a)).trans (w.config_act a)

/-- Only a track changes the time that is kept of the last one. -/
theorem lastUpdate_act (hr : w.agent.sources.Reaches ref) (hm : w.fleet.get? ref = some m)
    (a : Activity) : ∃ m', (w.act a).fleet.get? ref = some m' ∧
      m'.lastUpdate = ((a.trackTime? ref).map Metric.stamp).or m.lastUpdate := by
  cases a with
  | track r now value =>
    rw [act, Fleet.get?_track, hm, Activity.trackTime?]
    by_cases h : r = ref
    · exact ⟨m.track now value, by rw [if_pos h]; rfl, by rw [if_pos h]; rfl⟩
    · exact ⟨m, by rw [if_neg h], by rw [if_neg h]; rfl⟩
  | lookup b key => exact ⟨m, Fleet.get?_lookup b key hm, rfl⟩
  | cycle now clock =>
    refine ⟨w.agent.config.collected now m, ?_, Metric.lastUpdate_collected ..⟩
    rw [act, fleet_cycle, Collection.get?_all _ _ _ _ _ hr, hm, Option.map_some]

theorem lastUpdate_run (hr : w.agent.sources.Reaches ref) (hm : w.fleet.get? ref = some m)
    (activities : List Activity) : ∃ m', (w.run activities).fleet.get? ref = some m' ∧
      m'.lastUpdate = ((trackTimes ref activities).getLast?.map Metric.stamp).or m.lastUpdate := by
  induction activities generalizing w m with
  | nil => exact ⟨m, hm, rfl⟩
  | cons a activities ih =>
    obtain ⟨m₁, hm₁, h₁⟩ := lastUpdate_act hr hm a
    obtain ⟨m₂, hm₂, h₂⟩ := ih ((w.sources_act a).symm ▸ hr) hm₁
    refine ⟨m₂, hm₂, ?_⟩
    -- the first activity only counts if the metric is not tracked in the others
    rw [h₂, h₁, trackTimes, trackTimes, List.filterMap_cons]
    cases a.trackTime? ref with
    | none => rfl
    | some t =>
      rw [List.getLast?_cons]
      cases (activities.filterMap (Activity.trackTime? ref)).getLast? <;> rfl

theorem trackTimes_append (ref : MetricRef) (before after : List Activity) :
    trackTimes ref (before ++ after) = trackTimes ref before ++ trackTimes ref after :=
  List.filterMap_append

/-- The second of two cycles, the first at `start` and the other one period later, sends the metric
just if it was tracked in between. -/
def ReportsUpdates (w : World κ) (ref : MetricRef) (before : List Activity) (start : WallTime)
    (clock : Instant) (between : List Activity) : Prop :=
  (w.run (before ++ .cycle start clock :: between)).Reports
    (start + w.agent.config.collectFrequency) ref ↔ trackTimes ref between ≠ []

variable {labels : Labels} {kind : Kind} {start : WallTime}

theorem reports_period_later (hr : w.agent.sources.Reaches ref)
    (hm : w.fleet.get? ref = some (.new labels kind)) (ho : w.agent.config.onlyRecent = true)
    (before between : List Activity) (start : WallTime) (clock : Instant) :
    (w.run (before ++ .cycle start clock :: between)).Reports
      (start + w.agent.config.collectFrequency) ref ↔
      ∃ t ∈ (trackTimes ref before ++ trackTimes ref between).getLast?, start ≤ Metric.kept t := by
  obtain ⟨m, hm', hl⟩ := lastUpdate_run hr hm (before ++ .cycle start clock :: between)
  have hr' : (w.run (before ++ .cycle start clock :: between)).agent.sources.Reaches ref := by
    rwa [sources_run]
  have ht : trackTimes ref (before ++ .cycle start clock :: between) =
      trackTimes ref before ++ trackTimes ref between := trackTimes_append ..
  rw [reports_iff hr' hm', AgentConfig.Due, config_run, imp_iff_right ho,
    Metric.updatedWithin_add_iff, hl, ht]
  cases (trackTimes ref before ++ trackTimes ref between).getLast? with
  | none => simp [Metric.new]
  | some t => simp [Metric.kept]

/-- The second of two cycles sends a metric if a track in between is kept as not before the first
cycle. It sends one that was not tracked in between just if its last track is kept so. Where nothing
is lost with the fraction of a millisecond, it sends the metric just if it was tracked in between. -/
theorem reports_updates (hr : w.agent.sources.Reaches ref)
    (hm : w.fleet.get? ref = some (.new labels kind)) (ho : w.agent.config.onlyRecent = true)
    (before : List Activity) {between : List Activity}
    (hc : (start :: trackTimes ref between).Pairwise (· ≤ ·))
    (hs : ∀ t ∈ trackTimes ref between, t < .ofMillis UInt64.size) (clock : Instant) :
    ((∃ t ∈ trackTimes ref between, start ≤ .ofMillis t.millis) →
      (w.run (before ++ .cycle start clock :: between)).Reports
        (start + w.agent.config.collectFrequency) ref) ∧
    (trackTimes ref between = [] →
      ((w.run (before ++ .cycle start clock :: between)).Reports
        (start + w.agent.config.collectFrequency) ref ↔
        ∃ t ∈ (trackTimes ref before).getLast?, start ≤ Metric.kept t)) ∧
    (start = .ofMillis start.millis → .ofMillis 1 < start →
      (∀ t ∈ (trackTimes ref before).getLast?, t < start) →
      w.ReportsUpdates ref before start clock between) := by
  have hreports := reports_period_later hr hm ho before between start clock
  obtain ⟨hstart, hsorted⟩ := List.pairwise_cons.1 hc
  have hupdate : (∃ t ∈ trackTimes ref between, start ≤ .ofMillis t.millis) →
      (w.run (before ++ .cycle start clock :: between)).Reports
        (start + w.agent.config.collectFrequency) ref := by
    rintro ⟨t, ht, hk⟩
    obtain ⟨last, hl, hle⟩ := le_getLast?_of_mem hsorted ht
    refine hreports.2 ⟨last, ?_, ?_⟩
    · rw [List.getLast?_append, Option.mem_def.1 hl]
      rfl
    · exact Int.le_trans hk (Int.le_trans (Metric.ofMillis_millis_mono hle)
        (Metric.ofMillis_millis_le_kept (hs last (List.mem_of_getLast? hl))))
  have hidle (hb : trackTimes ref between = []) :
      (w.run (before ++ .cycle start clock :: between)).Reports
        (start + w.agent.config.collectFrequency) ref ↔
        ∃ t ∈ (trackTimes ref before).getLast?, start ≤ Metric.kept t := by
    rw [hreports, hb, List.append_nil]
  refine ⟨hupdate, hidle, ?_⟩
  intro hw h1 hlast
  constructor
  · intro h hb
    obtain ⟨t, ht, hk⟩ := (hidle hb).1 h
    exact absurd (Metric.kept_lt (hlast t ht) h1) (Int.not_lt.2 hk)
  · intro hb
    obtain ⟨t, ht⟩ := List.exists_mem_of_ne_nil _ hb
    refine hupdate ⟨t, ht, ?_⟩
    -- what is cut off a track after a whole millisecond does not take it to before that
    rw [hw]
    exact Metric.ofMillis_millis_mono (hstart t ht)

private def gauged : World Recorder where
  agent :=
    { config := { collectFrequency := .ofSeconds 1 }, sources := { metrics := [.alone 0] }, client := {} }
  fleet := { metrics := #[.new (.ofName "queue") .gauge] }

private theorem reaches_gauged : gauged.agent.sources.Reaches (.alone 0) :=
  ⟨.inl List.mem_cons_self, List.not_mem_nil⟩

-- the first track is kept as before the first cycle, the second as after it
theorem reports_update_of_later_millisecond :
    let before : List Activity := [.track (.alone 0) 1200000 3]
    let between : List Activity := [.track (.alone 0) 1700000 4, .track (.alone 0) 2100000 5]
    gauged.agent.sources.Reaches (.alone 0) ∧
      gauged.fleet.get? (.alone 0) = some (.new (.ofName "queue") .gauge) ∧
      gauged.agent.config.onlyRecent = true ∧
      (1500000 :: trackTimes (.alone 0) between).Pairwise (· ≤ ·) ∧
      (∀ t ∈ trackTimes (.alone 0) between, t < .ofMillis UInt64.size) ∧
      (2100000 : WallTime) ∈ trackTimes (.alone 0) between ∧
      (1500000 : WallTime) ≤ .ofMillis (WallTime.millis 2100000) ∧
      (gauged.run (before ++ .cycle 1500000 0 :: between)).Reports 1001500000 (.alone 0) := by
  intro before between
  have hc : (1500000 :: trackTimes (.alone 0) between).Pairwise (· ≤ ·) := by decide
  have hs : ∀ t ∈ trackTimes (.alone 0) between, t < .ofMillis UInt64.size := by decide
  have ht : (2100000 : WallTime) ∈ trackTimes (.alone 0) between := by decide
  have hk : (1500000 : WallTime) ≤ .ofMillis (WallTime.millis 2100000) := by decide
  have hr := (reports_updates reaches_gauged rfl rfl before hc hs 0).1 ⟨_, ht, hk⟩
  exact ⟨reaches_gauged, rfl, rfl, hc, hs, ht, hk, hr⟩

/-- A track in the millisecond of the first cycle may be missed, and one at the very time of it is
sent a second time. -/
theorem not_reports_updates :
    gauged.agent.config.onlyRecent = true ∧ gauged.agent.sources.Reaches (.alone 0) ∧
      (WallTime.ofMillis 1 ≤ 1500000 ∧
        ¬ gauged.ReportsUpdates (.alone 0) [] 1500000 0 [.track (.alone 0) 1700000 4]) ∧
      (WallTime.ofMillis 1 ≤ 2000000 ∧
        ¬ gauged.ReportsUpdates (.alone 0) [.track (.alone 0) 2000000 4] 2000000 0 []) := by
  refine ⟨rfl, reaches_gauged, ⟨by decide, ?_⟩, ⟨by decide, ?_⟩⟩
  · rw [ReportsUpdates, reports_period_later reaches_gauged rfl rfl]
    decide
  · rw [ReportsUpdates, reports_period_later reaches_gauged rfl rfl]
    decide

end World

end Telemetry
