import Telemetry.Proofs.Agent.Run
import Telemetry.Proofs.Metric.History
/-!
# Ledgers

A ledger follows one metric through a run: it cuts the values tracked on it into windows, one for
each cycle that sends the metric, and notes what was sent. Main statement: the accumulator of the
metric always holds the open window, or all values of the run if cycles do not reset it.
-/
namespace Telemetry

/-- The windows of a metric that are closed, each with the number sent of it, and the open one. -/
structure Ledger where
  closed : List (List Float × Float) := []
  current : List Float := []

namespace Ledger

def values (l : Ledger) : List Float :=
  l.closed.flatMap (·.1) ++ l.current

def track (l : Ledger) (value : Float) : Ledger :=
  { l with current := l.current ++ [value] }

/-- Closes the open window with the number sent of it. -/
def report (l : Ledger) (x : Float) : Ledger :=
  { closed := l.closed ++ [(l.current, x)] }

@[simp] theorem values_track (l : Ledger) (value : Float) :
    (l.track value).values = l.values ++ [value] := by
  rw [values, values, List.append_assoc]
  rfl

@[simp] theorem values_report (l : Ledger) (x : Float) : (l.report x).values = l.values := by
  simp [values, report]

/-- The ledger of the metric at `ref` after something more has happened to a world. -/
def note {κ : Type} (ref : MetricRef) (w : World κ) (l : Ledger) : Activity → Ledger
  | .track r _ value => if r = ref then l.track value else l
  | .lookup .. => l
  | .cycle now _ =>
    match w.reading now ref with
    | some s => l.report s.value
    | none => l

/-- The ledger of the metric at `ref` after a run that found it at `l`. -/
def along {κ : Type} [BufferedClient κ] (ref : MetricRef) :
    World κ → Ledger → List Activity → Ledger
  | _, l, [] => l
  | w, l, a :: activities => along ref (w.act a) (l.note ref w a) activities

variable {κ : Type} {ref : MetricRef} {w : World κ} {l : Ledger}

theorem values_note (a : Activity) :
    (l.note ref w a).values = l.values ++ (a.trackedOn? ref).toList := by
  cases a with
  | track r now value =>
    by_cases hr : r = ref
    · simp [note, Activity.trackedOn?, hr]
    · simp [note, Activity.trackedOn?, hr]
  | lookup b key => simp [note, Activity.trackedOn?]
  | cycle now clock =>
    rw [note]
    split <;> simp [Activity.trackedOn?]

/-- No value tracked is lost, and none is in two windows. -/
theorem values_along [BufferedClient κ] (activities : List Activity) :
    (along ref w l activities).values =
      l.values ++ activities.filterMap (Activity.trackedOn? ref) := by
  induction activities generalizing w l with
  | nil => simp [along]
  | cons a activities ih =>
    rw [along, ih, values_note, List.append_assoc, List.filterMap_cons]
    cases a.trackedOn? ref <;> rfl

/-- The values that a number sent of the metric is about: those of the open window, or all. -/
def counted (l : Ledger) (resets : Bool) : List Float :=
  if resets then l.current else l.values

theorem counted_track (resets : Bool) (value : Float) :
    (l.track value).counted resets = l.counted resets ++ [value] := by
  cases resets
  · exact l.values_track value
  · rfl

theorem counted_report (resets : Bool) (x : Float) :
    (l.report x).counted resets = if resets then [] else l.counted resets := by
  cases resets
  · exact l.values_report x
  · rfl

end Ledger

namespace AgentConfig

variable {config : AgentConfig} {kind : Kind}

theorem resets_eq_true :
    config.resets kind = true ↔ kind ≠ .count ∨ config.counterReset = .agent := by
  simp [resets, Kind.isCounter]

theorem resets_eq_false :
    config.resets kind = false ↔ kind = .count ∧ config.counterReset = .publisher := by
  rw [← Bool.not_eq_true, resets_eq_true]
  cases config.counterReset <;> simp

end AgentConfig

theorem Metric.afterRead_ofValues (config : AgentConfig) (labels : Labels) (kind : Kind)
    (values : List Float) (lastUpdate : Option Nat) :
    config.afterRead (ofValues labels kind values lastUpdate) =
      ofValues labels kind (if config.resets kind then [] else values) lastUpdate := by
  rw [AgentConfig.afterRead]
  change (if config.resets kind then _ else _) = _
  split
  · exact reset_ofValues labels kind values lastUpdate
  · rfl

variable {κ : Type}

/-- The metric at `ref` is what the ledger says of it, and so were the numbers sent of it. -/
structure Booked (ref : MetricRef) (labels : Labels) (kind : Kind) (w : World κ) (l : Ledger) :
    Prop where
  reached : w.agent.sources.Reaches ref
  metric : ∃ lastUpdate, w.fleet.get? ref =
    some (.ofValues labels kind (l.counted (w.agent.config.resets kind)) lastUpdate)
  sums : ∀ earlier window later, l.closed = earlier ++ window :: later → kind.Summarises
    (Ledger.counted ⟨earlier, window.1⟩ (w.agent.config.resets kind)) window.2

namespace Booked

variable {ref : MetricRef} {labels : Labels} {kind : Kind} {w : World κ} {l : Ledger}

theorem new (hr : w.agent.sources.Reaches ref)
    (hm : w.fleet.get? ref = some (.new labels kind)) : Booked ref labels kind w {} where
  reached := hr
  metric := by
    refine ⟨none, ?_⟩
    rw [hm]
    cases w.agent.config.resets kind <;> rfl
  sums := by
    intro earlier window later hl
    simp at hl

theorem mem_live (h : Booked ref labels kind w l) : ref ∈ w.agent.sources.live w.fleet := by
  obtain ⟨lastUpdate, hm⟩ := h.metric
  rw [Sources.mem_live (by rw [hm, Option.isSome_some])]
  exact h.reached

theorem track (h : Booked ref labels kind w l) (r : MetricRef) (now : WallTime) (value : Float) :
    Booked ref labels kind { w with fleet := w.fleet.track now r value }
      (if r = ref then l.track value else l) where
  reached := h.reached
  metric := by
    obtain ⟨lastUpdate, hm⟩ := h.metric
    rw [Fleet.get?_track]
    by_cases hr : r = ref
    · refine ⟨some (Metric.stamp now), ?_⟩
      rw [if_pos hr, if_pos hr, hm, Option.map_some, Metric.track_ofValues, Ledger.counted_track]
    · refine ⟨lastUpdate, ?_⟩
      rw [if_neg hr, if_neg hr, hm]
  sums := by
    split <;> exact h.sums

theorem lookup (h : Booked ref labels kind w l) (b : Nat) (key : Bucket.Key) :
    Booked ref labels kind { w with fleet := w.fleet.lookup b key } l where
  reached := h.reached
  metric := by
    obtain ⟨lastUpdate, hm⟩ := h.metric
    exact ⟨lastUpdate, Fleet.get?_lookup b key hm⟩
  sums := h.sums

theorem summarises_value (h : Booked ref labels kind w l) {now : WallTime} {s : Snapshot}
    (hs : w.reading now ref = some s) :
    kind.Summarises (l.counted (w.agent.config.resets kind)) s.value := by
  obtain ⟨lastUpdate, hm⟩ := h.metric
  rw [World.reading, Collection.reading_of_get? hm] at hs
  split at hs
  · rw [← Option.some.inj hs]
    exact Metric.summarises_get_ofValues labels kind _ lastUpdate
  · cases hs

variable [BufferedClient κ]

theorem get?_cycle (h : Booked ref labels kind w l) (now : WallTime) (clock : Instant) :
    (w.cycle now clock).fleet.get? ref =
      (w.fleet.get? ref).map (w.agent.config.collected now) :=
  Collection.get?_all w.agent.config now w.agent.sources w.agent.cycles w.fleet h.reached

/-- A cycle that does not send the metric leaves it as it is. -/
theorem get?_of_skipped (h : Booked ref labels kind w l) {now : WallTime} (clock : Instant)
    (hs : w.reading now ref = none) : (w.cycle now clock).fleet.get? ref = w.fleet.get? ref := by
  obtain ⟨lastUpdate, hm⟩ := h.metric
  rw [World.reading, Collection.reading_of_get? hm] at hs
  rw [h.get?_cycle, hm, Option.map_some, AgentConfig.collected, if_neg]
  intro hc
  rw [if_pos hc] at hs
  cases hs

theorem skip (h : Booked ref labels kind w l) {now : WallTime} (clock : Instant)
    (hs : w.reading now ref = none) : Booked ref labels kind (w.cycle now clock) l where
  reached := h.reached
  metric := by
    obtain ⟨lastUpdate, hm⟩ := h.metric
    exact ⟨lastUpdate, (h.get?_of_skipped clock hs).trans hm⟩
  sums := h.sums

theorem get?_of_reported (h : Booked ref labels kind w l) {now : WallTime} (clock : Instant)
    {s : Snapshot} (hs : w.reading now ref = some s) :
    ∃ lastUpdate, (w.cycle now clock).fleet.get? ref = some (.ofValues labels kind
      ((l.report s.value).counted (w.agent.config.resets kind)) lastUpdate) := by
  obtain ⟨lastUpdate, hm⟩ := h.metric
  rw [World.reading, Collection.reading_of_get? hm] at hs
  split at hs
  · rename_i hc
    refine ⟨lastUpdate, ?_⟩
    rw [h.get?_cycle, hm, Option.map_some, AgentConfig.collected, if_pos hc,
      Metric.afterRead_ofValues, Ledger.counted_report]
  · cases hs

theorem report (h : Booked ref labels kind w l) {now : WallTime} (clock : Instant) {s : Snapshot}
    (hs : w.reading now ref = some s) :
    Booked ref labels kind (w.cycle now clock) (l.report s.value) where
  reached := h.reached
  metric := h.get?_of_reported clock hs
  sums := by
    intro earlier window later hl
    rcases List.eq_nil_or_concat later with rfl | ⟨later, last, rfl⟩
    · obtain ⟨he, hw⟩ := List.append_inj' hl rfl
      obtain rfl : (l.current, s.value) = window := (List.cons.inj hw).1
      rw [← he]
      exact h.summarises_value hs
    · rw [List.concat_eq_append, ← List.cons_append, ← List.append_assoc] at hl
      exact h.sums earlier window later (List.append_inj' hl rfl).1

theorem act (h : Booked ref labels kind w l) (a : Activity) :
    Booked ref labels kind (w.act a) (l.note ref w a) := by
  cases a with
  | track r now value => exact h.track r now value
  | lookup b key => exact h.lookup b key
  | cycle now clock =>
    rw [Ledger.note]
    cases hs : w.reading now ref with
    | none => exact h.skip clock hs
    | some s => exact h.report clock hs

theorem run (h : Booked ref labels kind w l) (activities : List Activity) :
    Booked ref labels kind (w.run activities) (Ledger.along ref w l activities) := by
  induction activities generalizing w l with
  | nil => exact h
  | cons a activities ih => exact ih (h.act a)

end Booked

end Telemetry
