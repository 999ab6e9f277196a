import Telemetry.Proofs.Metric.History
/-!
# Recency of a metric

The time of the last track is kept in whole milliseconds, and never as before the first one. Main
statement: what a metric answers when it is asked whether it was tracked lately, set against the time
at which it really was.
-/
namespace Telemetry.Metric

section Kept

/-- The reading of the wall clock that is kept of a track at `now`. -/
def kept (now : WallTime) : WallTime :=
  .ofMillis (stamp now)

-- From this reading on, in half a billion years, milliseconds are counted from zero again.
theorem ofMillis_millis_le_kept {t : WallTime} (h : t < .ofMillis UInt64.size) :
    .ofMillis t.millis ≤ kept t := by
  unfold kept stamp WallTime.millis WallTime.ofMillis UInt64.size WallTime at *
  omega

theorem ofMillis_millis_mono {t u : WallTime} (h : t ≤ u) :
    WallTime.ofMillis t.millis ≤ .ofMillis u.millis := by
  unfold WallTime.millis WallTime.ofMillis WallTime at *
  omega

/-- What is kept of a track is not after it, except in the first millisecond and before it. -/
theorem kept_le {t : WallTime} (h : .ofMillis 1 ≤ t) : kept t ≤ t := by
  unfold kept stamp WallTime.millis WallTime.ofMillis UInt64.size WallTime at *
  omega

theorem kept_lt {t start : WallTime} (h : t < start) (hs : .ofMillis 1 < start) :
    kept t < start := by
  unfold kept stamp WallTime.millis WallTime.ofMillis UInt64.size WallTime at *
  omega

theorem lt_kept_add {t : WallTime} (h : t < .ofMillis UInt64.size) :
    t < kept t + .ofMillis 1 := by
  unfold kept stamp WallTime.millis WallTime.ofMillis UInt64.size WallTime at *
  omega

end Kept

/-- A last track that is kept as after `now` is less than any time before it. -/
theorem updatedWithin_iff (m : Metric) (now : WallTime) (window : Duration) :
    m.updatedWithin now window = true ↔
      ∃ ms ∈ m.lastUpdate, now - WallTime.ofMillis ms ≤ window := by
  rw [updatedWithin]
  cases m.lastUpdate with
  | none => simp
  | some ms =>
    simp only [Bool.or_eq_true, decide_eq_true_eq, Option.mem_def, Option.some.injEq,
      exists_eq_left']
    unfold WallTime Duration at *
    omega

/-- A metric was updated within the time since `start` if what is kept of its last track is not
before it. -/
theorem updatedWithin_add_iff (m : Metric) (start : WallTime) (window : Duration) :
    m.updatedWithin (start + window) window = true ↔
      ∃ ms ∈ m.lastUpdate, start ≤ WallTime.ofMillis ms := by
  rw [updatedWithin_iff]
  apply exists_congr
  intro ms
  apply and_congr_right
  intro _
  unfold WallTime Duration at *
  omega

/-- When a metric was tracked since it was made, in order. -/
def trackedAt (first : Option (WallTime × Float)) (history : List Action) : List WallTime :=
  (first.toList ++ history.filterMap Action.tracked?).map (·.1)

theorem lastUpdate_run_create (labels : Labels) (kind : Kind) (first : Option (WallTime × Float))
    (history : List Action) : ((create labels kind first).run history).lastUpdate =
      (trackedAt first history).getLast?.map stamp := by
  have hm : (create labels kind first).lastUpdate = first.map fun t => stamp t.1 :=
    congrArg lastUpdate (create_eq labels kind first)
  rw [lastUpdate_run, hm, trackedAt, List.getLast?_map, List.getLast?_append, Option.map_map,
    Option.map_or]
  cases first <;> rfl

theorem updatedWithin_run_of_reads (m : Metric) {reads : List Action}
    (h : ∀ a ∈ reads, a = .get ∨ a = .getAndReset) (now : WallTime) (window : Duration) :
    (m.run reads).updatedWithin now window = m.updatedWithin now window := by
  induction reads generalizing m with
  | nil => rfl
  | cons a reads ih =>
    obtain ⟨ha, hr⟩ := List.forall_mem_cons.1 h
    refine (ih _ hr).trans ?_
    rcases ha with rfl | rfl
    · rfl
    · exact updatedWithin_reset m now window

/-- A metric that was never tracked is not recent. One that was is answered for rightly up to a
millisecond, whichever way the clock was set in between: after the first millisecond a track that is
too long ago never counts, and one that is in time by a millisecond always does, as long as 64 bits
hold its milliseconds. What is kept as after `now` counts as well, and reading the metric changes
nothing. -/
theorem recent_up_to_millisecond (labels : Labels) (kind : Kind)
    (first : Option (WallTime × Float)) (history : List Action) (now : WallTime)
    (window : Duration) :
    let m := (create labels kind first).run history
    (trackedAt first history = [] → m.updatedWithin now window = false) ∧
      (∀ t ∈ (trackedAt first history).getLast?,
        (WallTime.ofMillis 1 ≤ t → (window : Int) < now - t → m.updatedWithin now window = false) ∧
          (t < WallTime.ofMillis UInt64.size → now - t ≤ (window : Int) - WallTime.ofMillis 1 →
            m.updatedWithin now window = true)) ∧
      (∀ ms ∈ m.lastUpdate, now < WallTime.ofMillis ms → m.updatedWithin now window = true) ∧
      ∀ reads : List Action, (∀ a ∈ reads, a = .get ∨ a = .getAndReset) →
        (m.run reads).updatedWithin now window = m.updatedWithin now window := by
  intro m
  have hm : m.lastUpdate = (trackedAt first history).getLast?.map stamp :=
    lastUpdate_run_create labels kind first history
  have hk {t : WallTime} (ht : t ∈ (trackedAt first history).getLast?) :
      m.updatedWithin now window = true ↔ now - kept t ≤ window := by
    rw [updatedWithin_iff, hm, Option.mem_def.1 ht]
    simp [kept]
  refine ⟨?_, ?_, ?_, ?_⟩
  · intro hn
    rw [hn] at hm
    rw [updatedWithin, hm]
    rfl
  · intro t ht
    constructor
    · intro h1 hw
      have hle := kept_le h1
      rw [Bool.eq_false_iff, Ne, hk ht]
      unfold WallTime Duration at *
      omega
    · intro hs hw
      have hlt := lt_kept_add hs
      rw [hk ht]
      unfold WallTime Duration at *
      omega
  · intro ms hms hlt
    rw [updatedWithin_iff]
    refine ⟨ms, hms, ?_⟩
    unfold WallTime Duration at *
    omega
  · intro reads hr
    exact updatedWithin_run_of_reads m hr now window

/-- The clock is set back before the last track, which is kept half a millisecond early. -/
theorem recent_after_setback :
    let m := (create (.ofName "queue") .gauge (some (9000000, 1))).run
      [.track 5000000 2, .get, .track 2500000 3, .getAndReset]
    (2500000 : WallTime) ∈ (trackedAt (some (9000000, 1))
        [.track 5000000 2, .get, .track 2500000 3, .getAndReset]).getLast? ∧
      WallTime.ofMillis 1 ≤ 2500000 ∧ 2500000 < WallTime.ofMillis UInt64.size ∧
      m.updatedWithin 3000000 400000 = false ∧ m.updatedWithin 3000000 1500000 = true := by
  intro m
  have ht : (2500000 : WallTime) ∈ (trackedAt (some (9000000, 1))
      [.track 5000000 2, .get, .track 2500000 3, .getAndReset]).getLast? := rfl
  have h1 : WallTime.ofMillis 1 ≤ 2500000 := by decide
  have hs : 2500000 < WallTime.ofMillis UInt64.size := by decide
  have h (window : Duration) := (recent_up_to_millisecond (.ofName "queue") .gauge
    (some (9000000, 1)) [.track 5000000 2, .get, .track 2500000 3, .getAndReset] 3000000 window).2.1
      2500000 ht
  exact ⟨ht, h1, hs, (h 400000).1 h1 (by decide), (h 1500000).2 hs (by decide)⟩

end Telemetry.Metric
