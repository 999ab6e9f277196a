import Telemetry.Proofs.Agent.Publishing
import Telemetry.Proofs.Float.Integers
/-!
# Growth of counters

Counters that only grow are sent by an agent together with others under the same labels. Main
statement: a publisher that takes differences never receives a negative one of such a counter,
unless the count before it under the same labels was not one of the same metric.
-/
namespace Telemetry

open Floats

namespace Bucket

/-- A metric of a bucket after a look-up was there before or is new. -/
theorem getElem?_of_lookup {b : Bucket} {i : Nat} {m : Metric} (labels : Labels)
    (h : (b.lookup labels).2.metrics[i]? = some m) :
    b.metrics[i]? = some m ∨ m = .new labels.normalize b.kind := by
  rw [lookup] at h
  split at h
  · exact .inl h
  · rw [Array.getElem?_push] at h
    split at h
    · exact .inr (Option.some.inj h).symm
    · exact .inl h

end Bucket

namespace Fleet

theorem get?_of_lookup {f : Fleet} {ref : MetricRef} {m : Metric} (b : Nat) (key : Bucket.Key)
    (h : (f.lookup b key).get? ref = some m) :
    f.get? ref = some m ∨ ∃ labels kind, m = .new labels kind := by
  rw [lookup, lookup?] at h
  cases hb : f.buckets[b]? with
  | none =>
    rw [hb] at h
    exact .inl h
  | some bucket =>
    simp only [hb, Option.map_some, Option.getD_some] at h
    cases ref with
    | alone i => exact .inl h
    | member c i =>
      simp only [get?, Array.getElem?_setIfInBounds] at h ⊢
      by_cases hc : b = c
      · subst hc
        have hl : b < f.buckets.size := (Array.getElem?_eq_some_iff.1 hb).1
        rw [if_pos rfl, if_pos hl, Option.bind_some] at h
        rw [hb, Option.bind_some]
        exact (Bucket.getElem?_of_lookup _ h).imp_right fun hm => ⟨_, _, hm⟩
      · rw [if_neg hc] at h
        exact .inl h

end Fleet

namespace Metric

/-- The metric is a counter that holds an integer. -/
structure Holds (m : Metric) (n : ℤ) : Prop where
  kind : m.kind = .count
  total : ∃ x, m.accumulator = .sum x ∧ IsInt x n

variable {m : Metric} {n : ℤ}

theorem holds_new (labels : Labels) : (new labels .count).Holds 0 :=
  ⟨rfl, 0, rfl, .zero⟩

theorem Holds.isInt_get (h : m.Holds n) : IsInt m.get n := by
  obtain ⟨-, x, hx, hn⟩ := h
  rwa [get, hx]

theorem Holds.track (h : m.Holds n) {x : Float} {k : ℤ} (hx : IsInt x k) (hs : |n + k| < 2 ^ 53)
    (now : WallTime) : (m.track now x).Holds (n + k) := by
  obtain ⟨hk, y, hy, hn⟩ := h
  refine ⟨hk, y + x, ?_, hn.add hx hs⟩
  rw [Metric.track, hy]
  rfl

theorem Holds.eq {k : ℤ} (h : m.Holds n) (h' : m.Holds k) : n = k :=
  h.isInt_get.toInt_eq.symm.trans h'.isInt_get.toInt_eq

end Metric

/-- A snapshot with the place of the metric that it was read from, if it was read. -/
abbrev Sighting := Option MetricRef × Snapshot

namespace World

variable {κ : Type}

/-- The snapshots that a cycle at `now` sends, with where they come from. -/
def sightings (w : World κ) (now : WallTime) : List Sighting :=
  (Collection.provided w.agent.cycles now.seconds w.agent.sources.tags w.fleet
      w.agent.sources.providers).1.map (none, ·) ++
    (Collection.entries id (w.reading now) (w.agent.sources.live w.fleet)).map
      (Prod.map some id) ++
    (w.agent.sources.registries.flatMap fun registry =>
      (registry w.agent.cycles).map (·.toSnapshot now.seconds w.agent.sources.tags)).map (none, ·)

theorem map_snd_sightings (w : World κ) (now : WallTime) :
    (w.sightings now).map (·.2) = w.sent now := by
  have hl : ((Collection.entries id (w.reading now) (w.agent.sources.live w.fleet)).map
      (Prod.map some id)).map (·.2) =
      (w.agent.sources.live w.fleet).filterMap (w.reading now) := by
    rw [List.map_map]
    exact Collection.map_snd_entries
  rw [sightings, sent_eq, List.map_append, List.map_append, hl]
  simp [Function.comp_def]

theorem mem_sightings {w : World κ} {now : WallTime} {ref : MetricRef} {s : Snapshot}
    (h : (some ref, s) ∈ w.sightings now) : w.reading now ref = some s := by
  simp only [sightings, List.mem_append, List.mem_map, Prod.mk.injEq, reduceCtorEq, false_and,
    and_false, exists_false, false_or, or_false, Prod.map, Option.some.injEq, id] at h
  obtain ⟨⟨r, t⟩, he, rfl, rfl⟩ := h
  obtain ⟨r, -, rfl, ht⟩ := Collection.mem_entries.1 he
  exact ht

/-- No metric is read twice in a cycle. -/
theorem sightings_pairwise (w : World κ) (now : WallTime) :
    (w.sightings now).Pairwise fun e f => ∀ ref, e.1 = some ref → f.1 ≠ some ref := by
  have hn : ((Collection.entries id (w.reading now) (w.agent.sources.live w.fleet)).map
      (·.1)).Nodup :=
    List.Nodup.sublist Collection.map_fst_entries
      (by rw [List.map_id]; exact w.agent.sources.nodup_live w.fleet)
  have hr : ((Collection.entries id (w.reading now) (w.agent.sources.live w.fleet)).map
      (Prod.map some id)).Pairwise fun e f : Sighting => ∀ ref, e.1 = some ref → f.1 ≠ some ref := by
    rw [List.pairwise_map]
    refine (List.pairwise_map.1 hn).imp ?_
    intro e f hne ref he hf
    exact hne (Option.some.inj (he.trans hf.symm))
  have hnone (ss : List Snapshot) : (ss.map ((none : Option MetricRef), ·)).Pairwise
      fun e f : Sighting => ∀ ref, e.1 = some ref → f.1 ≠ some ref := by
    rw [List.pairwise_map]
    exact List.pairwise_of_forall fun _ _ ref h => by cases h
  refine List.pairwise_append.2 ⟨List.pairwise_append.2 ⟨hnone _, hr, ?_⟩, hnone _, ?_⟩
  · intro e he f _ ref h
    obtain ⟨s, -, rfl⟩ := List.mem_map.1 he
    cases h
  · intro e _ f hf ref _ h
    obtain ⟨s, -, rfl⟩ := List.mem_map.1 hf
    cases h

variable [BufferedClient κ]

/-- The snapshots that all cycles of a run send, with where they come from. -/
def sightingsOver : World κ → List Activity → List Sighting
  | _, [] => []
  | w, a :: activities =>
    match a with
    | .cycle now _ => w.sightings now ++ sightingsOver (w.act a) activities
    | _ => sightingsOver (w.act a) activities

theorem map_snd_sightingsOver (w : World κ) (activities : List Activity) :
    (w.sightingsOver activities).map (·.2) = (w.sentOver activities).flatten := by
  induction activities generalizing w with
  | nil => rfl
  | cons a activities ih =>
    cases a with
    | track ref now value => exact ih _
    | lookup b key => exact ih _
    | cycle now clock =>
      rw [sightingsOver, sentOver, List.map_append, ih, map_snd_sightings, List.flatten_cons]

/-- The counters at some places hold integers from zero on, only such are tracked on them, and no
total reaches 2 ^ 53. -/
structure Growing (places : MetricRef → Prop) (w : World κ) (activities : List Activity) : Prop where
  resets : w.agent.config.counterReset = .publisher
  held : ∀ ref, places ref → ∀ m, w.fleet.get? ref = some m → m.kind = .count →
    ∃ n, m.Holds n ∧ 0 ≤ n ∧ n + intSum (activities.filterMap (Activity.trackedOn? ref)) < 2 ^ 53
  tracked : ∀ ref, places ref → ∀ x ∈ activities.filterMap (Activity.trackedOn? ref),
    IsInt x (toInt x) ∧ 0 ≤ toInt x
  total : ∀ ref, places ref → intSum (activities.filterMap (Activity.trackedOn? ref)) < 2 ^ 53

variable {places : MetricRef → Prop} {w : World κ}

/-- A cycle leaves counters alone if publishers take differences. -/
theorem get?_cycle_iff (hc : w.agent.config.counterReset = .publisher) (now : WallTime)
    (clock : Instant) (ref : MetricRef) {m : Metric} (hk : m.kind = .count) :
    (w.cycle now clock).fleet.get? ref = some m ↔ w.fleet.get? ref = some m := by
  have hcollected (m' : Metric) : w.agent.config.collected now m' = m ↔ m' = m := by
    by_cases hk' : m'.kind = .count
    · rw [AgentConfig.collected, AgentConfig.afterRead, AgentConfig.resets_eq_false.2 ⟨hk', hc⟩,
        if_neg Bool.false_ne_true, ite_self]
    · have hck : (w.agent.config.collected now m').kind = m'.kind := by
        rw [AgentConfig.collected, AgentConfig.afterRead]
        split
        · split <;> rfl
        · rfl
      refine iff_of_false ?_ ?_
      · rintro rfl
        exact hk' (hck.symm.trans hk)
      · rintro rfl
        exact hk' hk
  rw [fleet_cycle, Collection.all, Collection.get?_live _ _ _ (w.agent.sources.nodup_live w.fleet)]
  split
  · cases w.fleet.get? ref with
    | none => simp
    | some m' => rw [Option.map_some, Option.some_inj, Option.some_inj, hcollected]
  · rfl

namespace Growing

variable {a : Activity} {activities : List Activity} {ref : MetricRef} {m : Metric} {n : ℤ}

omit [BufferedClient κ] in
theorem intSum_filterMap_cons (ref : MetricRef) (a : Activity) (activities : List Activity) :
    intSum ((a :: activities).filterMap (Activity.trackedOn? ref)) =
      intSum (a.trackedOn? ref).toList +
        intSum (activities.filterMap (Activity.trackedOn? ref)) := by
  rw [← intSum_append, List.filterMap_cons]
  cases a.trackedOn? ref <;> rfl

omit [BufferedClient κ] in
theorem tracked_tail (h : w.Growing places (a :: activities)) (hp : places ref) :
    ∀ x ∈ activities.filterMap (Activity.trackedOn? ref), IsInt x (toInt x) ∧ 0 ≤ toInt x := by
  intro x hx
  obtain ⟨b, hb, hx⟩ := List.mem_filterMap.1 hx
  exact h.tracked ref hp x (List.mem_filterMap.2 ⟨b, List.mem_cons_of_mem a hb, hx⟩)

omit [BufferedClient κ] in
theorem tracked_head (h : w.Growing places (a :: activities)) (hp : places ref) :
    ∀ x ∈ (a.trackedOn? ref).toList, IsInt x (toInt x) ∧ 0 ≤ toInt x := by
  intro x hx
  have ht := Option.mem_toList.1 hx
  exact h.tracked ref hp x (List.mem_filterMap.2 ⟨a, List.mem_cons_self, ht⟩)

theorem intSum_nonneg {xs : List Float} (h : ∀ x ∈ xs, IsInt x (toInt x) ∧ 0 ≤ toInt x) :
    0 ≤ intSum xs := by
  apply List.sum_nonneg
  intro k hk
  obtain ⟨x, hx, rfl⟩ := List.mem_map.1 hk
  exact (h x hx).2

/-- Something that happens adds to a counter what is tracked on it. -/
theorem holds_act (h : w.Growing places (a :: activities)) (hp : places ref)
    (hm : w.fleet.get? ref = some m) (hn : m.Holds n) :
    ∃ m', (w.act a).fleet.get? ref = some m' ∧ m'.Holds (n + intSum (a.trackedOn? ref).toList) := by
  cases a with
  | track r now x =>
    rw [World.act, Fleet.get?_track, Activity.trackedOn?, hm]
    by_cases hr : r = ref
    · obtain ⟨k, hk, hk0, hs⟩ := h.held ref hp m hm hn.kind
      obtain rfl := hn.eq hk
      have ht := intSum_nonneg (h.tracked_tail hp)
      obtain ⟨hx, hx0⟩ := h.tracked_head hp x (by simp [Activity.trackedOn?, hr])
      have hi : intSum [x] = toInt x := List.sum_singleton
      rw [intSum_filterMap_cons, Activity.trackedOn?, if_pos hr, Option.toList_some, hi] at hs
      rw [if_pos hr, if_pos hr, Option.toList_some, hi]
      exact ⟨_, rfl, hn.track hx (abs_lt.2 (by omega)) now⟩
    · rw [if_neg hr, if_neg hr]
      exact ⟨m, rfl, by rwa [Option.toList_none, intSum, List.map_nil, List.sum_nil, add_zero]⟩
  | lookup b key => exact ⟨m, Fleet.get?_lookup b key hm, by rwa [← add_zero n] at hn⟩
  | cycle now clock =>
    exact ⟨m, (get?_cycle_iff h.resets now clock ref hn.kind).2 hm, by rwa [← add_zero n] at hn⟩

/-- A counter that is there afterwards is an older one or new. -/
theorem of_act (h : w.Growing places (a :: activities)) (hm : (w.act a).fleet.get? ref = some m)
    (hk : m.kind = .count) : (∃ m', w.fleet.get? ref = some m' ∧ m'.kind = .count) ∨
      a.trackedOn? ref = none ∧ m.Holds 0 := by
  cases a with
  | track r now x =>
    rw [World.act, Fleet.get?_track] at hm
    by_cases hr : r = ref
    · rw [if_pos hr] at hm
      obtain ⟨m', hm', rfl⟩ := Option.map_eq_some_iff.1 hm
      exact .inl ⟨m', hm', hk⟩
    · rw [if_neg hr] at hm
      exact .inl ⟨m, hm, hk⟩
  | lookup b key =>
    rcases Fleet.get?_of_lookup b key hm with hm | ⟨labels, kind, rfl⟩
    · exact .inl ⟨m, hm, hk⟩
    · obtain rfl : kind = .count := hk
      exact .inr ⟨rfl, Metric.holds_new labels⟩
  | cycle now clock => exact .inl ⟨m, (get?_cycle_iff h.resets now clock ref hk).1 hm, hk⟩

theorem act (h : w.Growing places (a :: activities)) : (w.act a).Growing places activities where
  resets := by rw [config_act, h.resets]
  held := by
    intro ref hp m hm hk
    rcases h.of_act hm hk with ⟨m', hm', hk'⟩ | ⟨ha, hz⟩
    · obtain ⟨n, hn, hn0, hs⟩ := h.held ref hp m' hm' hk'
      obtain ⟨m'', hm'', hh⟩ := h.holds_act hp hm' hn
      obtain rfl := Option.some.inj (hm.symm.trans hm'')
      have hx := intSum_nonneg (h.tracked_head hp)
      rw [intSum_filterMap_cons] at hs
      exact ⟨_, hh, by omega, by omega⟩
    · have ht := h.total ref hp
      rw [List.filterMap_cons_none ha] at ht
      exact ⟨0, hz, le_rfl, by rwa [zero_add]⟩
  tracked := fun ref hp => h.tracked_tail hp
  total := by
    intro ref hp
    have ht := h.total ref hp
    have hx := intSum_nonneg (h.tracked_head hp)
    rw [intSum_filterMap_cons] at ht
    omega

omit [BufferedClient κ] in
/-- What is read of a counter is what it holds. -/
theorem isInt_reading (h : w.Growing places activities) (hp : places ref) {now : WallTime}
    {s : Snapshot} (hs : w.reading now ref = some s) (hk : s.kind = .count) :
    ∃ m k, w.fleet.get? ref = some m ∧ m.Holds k ∧ IsInt s.value k ∧ 0 ≤ k ∧ k < 2 ^ 53 := by
  rw [reading, Collection.reading] at hs
  obtain ⟨m, hm, hs⟩ := Option.bind_eq_some_iff.1 hs
  split at hs
  · obtain rfl := Option.some.inj hs
    obtain ⟨k, hh, hk0, hsum⟩ := h.held ref hp m hm hk
    have ht := intSum_nonneg (h.tracked ref hp)
    exact ⟨m, k, hm, hh, hh.isInt_get, hk0, by omega⟩
  · cases hs

/-- All that is sent of a counter is at least what it holds now. -/
theorem isInt_sighted (h : w.Growing places activities) (hp : places ref) {s : Snapshot}
    (hs : (some ref, s) ∈ w.sightingsOver activities) (hk : s.kind = .count) :
    ∃ k, IsInt s.value k ∧ 0 ≤ k ∧ k < 2 ^ 53 ∧
      ∀ m n, w.fleet.get? ref = some m → m.Holds n → n ≤ k := by
  induction activities generalizing w with
  | nil => cases hs
  | cons a activities ih =>
    have later (hs : (some ref, s) ∈ (w.act a).sightingsOver activities) : ∃ k, IsInt s.value k ∧
        0 ≤ k ∧ k < 2 ^ 53 ∧ ∀ m n, w.fleet.get? ref = some m → m.Holds n → n ≤ k := by
      obtain ⟨k, hi, hk0, hkb, hle⟩ := ih h.act hs
      refine ⟨k, hi, hk0, hkb, fun m n hm hn => ?_⟩
      obtain ⟨m', hm', hn'⟩ := h.holds_act hp hm hn
      have hx := intSum_nonneg (h.tracked_head hp)
      have hle := hle m' _ hm' hn'
      omega
    cases a with
    | track r now x => exact later hs
    | lookup b key => exact later hs
    | cycle now clock =>
      rcases List.mem_append.1 hs with hs | hs
      · obtain ⟨m, k, hm, hh, hi, hk0, hkb⟩ := h.isInt_reading hp (mem_sightings hs) hk
        refine ⟨k, hi, hk0, hkb, fun m' n hm' hn => ?_⟩
        obtain rfl := Option.some.inj (hm.symm.trans hm')
        exact (hn.eq hh).le
      · exact later hs

/-- What is sent of a counter never gets less. -/
theorem pairwise_sightingsOver (h : w.Growing places activities) :
    (w.sightingsOver activities).Pairwise fun e f => ∀ ref, places ref → e.1 = some ref →
      f.1 = some ref → e.2.kind = .count → f.2.kind = .count →
        toInt e.2.value ≤ toInt f.2.value := by
  induction activities generalizing w with
  | nil => exact .nil
  | cons a activities ih =>
    cases a with
    | track r now x => exact ih h.act
    | lookup b key => exact ih h.act
    | cycle now clock =>
      refine List.pairwise_append.2 ⟨?_, ih h.act, ?_⟩
      · refine (w.sightings_pairwise now).imp ?_
        intro e f hne ref _ he hf
        exact absurd hf (hne ref he)
      · rintro ⟨-, s⟩ he ⟨-, t⟩ hf ref hp rfl rfl hs ht
        obtain ⟨m, n, hm, hh, hi, -, -⟩ := h.isInt_reading hp (mem_sightings he) hs
        obtain ⟨k, hi', -, -, hle⟩ := h.act.isInt_sighted hp hf ht
        have hm' := (get?_cycle_iff h.resets now clock ref hh.kind).2 hm
        rw [hi.toInt_eq, hi'.toInt_eq]
        exact hle m n hm' hh

end Growing

/-- The latest sighting of a count under some labels. -/
def latestUnder (labels : Labels) (sightings : List Sighting) : Option Sighting :=
  sightings.reverse.find? (·.2.Counts labels)

/-- The number sent by it; zero if there is none. -/
def totalUnder (labels : Labels) (sightings : List Sighting) : ℤ :=
  ((latestUnder labels sightings).map (toInt ·.2.value)).getD 0

omit [BufferedClient κ] in
theorem lastCount_map_snd (labels : Labels) (sightings : List Sighting) :
    Snapshot.lastCount (sightings.map (·.2)) labels =
      ((latestUnder labels sightings).map (·.2.value)).getD 0 := by
  rw [Snapshot.lastCount, latestUnder, ← List.map_reverse, List.find?_map, Option.map_map]
  rfl

omit [BufferedClient κ] in
theorem mem_of_latestUnder {labels : Labels} {sightings : List Sighting} {e : Sighting}
    (h : latestUnder labels sightings = some e) :
    e ∈ sightings ∧ e.2.kind = .count ∧ e.2.labels = labels := by
  rw [latestUnder] at h
  have hf := List.find?_some h
  have hc : e.2.Counts labels := of_decide_eq_true hf
  exact ⟨List.mem_reverse.1 (List.mem_of_find?_eq_some h), Kind.isCounter_iff.1 hc.1, hc.2⟩

/-- The sightings of what the filters of a publisher pass. -/
def passed [Regex.Engine] (p : Publisher) (sightings : List Sighting) : List Sighting :=
  sightings.filter fun e => (Filter.chain p.config.filters.1).passes e.2

theorem received_sightingsOver [Regex.Engine] {config : AgentConfig} {p : Publisher}
    (hc : config.counterReset = .publisher) (hp : p.config.resetCounters = true) (w : World κ)
    (activities : List Activity) :
    Client.received config p (w.sentOver activities).flatten =
      Snapshot.differences ((passed p (w.sightingsOver activities)).map (·.2)) := by
  rw [Client.received, if_pos ⟨hp, hc⟩, ← map_snd_sightingsOver, List.filter_map]
  rfl

variable {activities : List Activity} {ref : MetricRef} {p : Publisher} {n : ℕ} {s : Snapshot}
  {e : Sighting}

namespace Growing

theorem isInt_passed [Regex.Engine] (h : w.Growing places activities) (hp : places ref)
    (hs : (some ref, s) ∈ passed p (w.sightingsOver activities)) (hk : s.kind = .count) :
    IsInt s.value (toInt s.value) ∧ 0 ≤ toInt s.value ∧ toInt s.value < 2 ^ 53 := by
  obtain ⟨k, hi, hk0, hkb, -⟩ := h.isInt_sighted hp (List.mem_filter.1 hs).1 hk
  rw [hi.toInt_eq]
  exact ⟨hi, hk0, hkb⟩

theorem toInt_le [Regex.Engine] (h : w.Growing places activities) (hp : places ref)
    (hs : (passed p (w.sightingsOver activities))[n]? = some (some ref, s)) (hk : s.kind = .count)
    (he : e ∈ (passed p (w.sightingsOver activities)).take n) (hr : e.1 = some ref)
    (hek : e.2.kind = .count) : toInt e.2.value ≤ toInt s.value := by
  have hw := h.pairwise_sightingsOver.sublist
    (List.filter_sublist (p := fun e => (Filter.chain p.config.filters.1).passes e.2))
  change (passed p (w.sightingsOver activities)).Pairwise _ at hw
  obtain ⟨i, hi, rfl⟩ := List.mem_take_iff_getElem.1 he
  obtain ⟨hn, hs⟩ := List.getElem?_eq_some_iff.1 hs
  have hle := List.pairwise_iff_getElem.1 hw i n _ hn (by omega) ref hp hr (by rw [hs]) hek
    (by rwa [hs])
  rwa [hs] at hle

/-- What is received of a counter is taken relative to the count before it under its labels. -/
theorem isInt_since [Regex.Engine] (h : w.Growing places activities) (hp : places ref)
    (hs : (passed p (w.sightingsOver activities))[n]? = some (some ref, s)) (hk : s.kind = .count)
    (hl : ∀ e, latestUnder s.labels ((passed p (w.sightingsOver activities)).take n) = some e →
      ∃ other, places other ∧ e.1 = some other) :
    IsInt (s.since (((passed p (w.sightingsOver activities)).take n).map (·.2))).value
      (toInt s.value - totalUnder s.labels ((passed p (w.sightingsOver activities)).take n)) := by
  obtain ⟨hi, h0, hb⟩ := h.isInt_passed hp (List.mem_of_getElem? hs) hk
  rw [Snapshot.since, if_pos (Kind.isCounter_iff.2 hk), lastCount_map_snd, totalUnder]
  cases he : latestUnder s.labels ((passed p (w.sightingsOver activities)).take n) with
  | none =>
    have hz : |toInt s.value - 0| < 2 ^ 53 := abs_lt.2 (by omega)
    exact hi.sub .zero hz
  | some e =>
    obtain ⟨o, t⟩ := e
    obtain ⟨other, ho, rfl⟩ := hl _ he
    obtain ⟨hm, htk, -⟩ := mem_of_latestUnder he
    obtain ⟨hi', h0', hb'⟩ := h.isInt_passed ho (List.mem_of_mem_take hm) htk
    have hd : |toInt s.value - toInt t.value| < 2 ^ 53 := abs_lt.2 (by omega)
    exact hi.sub hi' hd

theorem totalUnder_le [Regex.Engine] (h : w.Growing places activities) (hp : places ref)
    (hs : (passed p (w.sightingsOver activities))[n]? = some (some ref, s)) (hk : s.kind = .count)
    (hl : ∀ e, latestUnder s.labels ((passed p (w.sightingsOver activities)).take n) = some e →
      e.1 = some ref) :
    totalUnder s.labels ((passed p (w.sightingsOver activities)).take n) ≤ toInt s.value := by
  rw [totalUnder]
  cases he : latestUnder s.labels ((passed p (w.sightingsOver activities)).take n) with
  | none => exact (h.isInt_passed hp (List.mem_of_getElem? hs) hk).2.1
  | some e =>
    obtain ⟨hm, hek, -⟩ := mem_of_latestUnder he
    exact h.toInt_le hp hs hk hm (hl e he) hek

end Growing

/-- What a publisher has to receive of growing counters, out of what its filters pass: the growth
since the count before under the same labels, which is below zero just if that one was larger, and
so never if it was one of the same counter. -/
structure Grown (places : MetricRef → Prop) (passed : List Sighting) (received : List Snapshot) :
    Prop where
  differences : received = Snapshot.differences (passed.map (·.2))
  isInt : ∀ n ref s t, passed[n]? = some (some ref, s) → received[n]? = some t → places ref →
    s.kind = .count →
    (∀ e, latestUnder s.labels (passed.take n) = some e →
      ∃ other, places other ∧ e.1 = some other) →
    IsInt t.value (toInt s.value - totalUnder s.labels (passed.take n)) ∧
      (0 ≤ t.value ↔ totalUnder s.labels (passed.take n) ≤ toInt s.value)
  nonneg : ∀ n ref s t, passed[n]? = some (some ref, s) → received[n]? = some t → places ref →
    s.kind = .count →
    (∀ e, latestUnder s.labels (passed.take n) = some e → e.1 = some ref) → 0 ≤ t.value

omit [BufferedClient κ] in
theorem eq_since_of_getElem? {sightings : List Sighting} {o : Option MetricRef} {t : Snapshot}
    (hs : sightings[n]? = some (o, s))
    (ht : (Snapshot.differences (sightings.map (·.2)))[n]? = some t) :
    t = s.since ((sightings.take n).map (·.2)) := by
  rw [Snapshot.differences, List.getElem?_mapIdx, List.getElem?_map, hs, ← List.map_take] at ht
  exact (Option.some.inj ht).symm

theorem Growing.grown [Regex.Engine] (h : w.Growing places activities) (p : Publisher) :
    Grown places (passed p (w.sightingsOver activities))
      (Snapshot.differences ((passed p (w.sightingsOver activities)).map (·.2))) where
  differences := rfl
  isInt := by
    intro n ref s t hs ht hp hk hl
    obtain rfl := eq_since_of_getElem? hs ht
    have hi := h.isInt_since hp hs hk hl
    exact ⟨hi, hi.nonneg_iff.trans sub_nonneg⟩
  nonneg := by
    intro n ref s t hs ht hp hk hl
    obtain rfl := eq_since_of_getElem? hs ht
    have hi := h.isInt_since hp hs hk fun e he => ⟨ref, hp, hl e he⟩
    exact hi.nonneg_iff.2 (sub_nonneg.2 (h.totalUnder_le hp hs hk hl))

/-- If no two metrics have counts under the same labels, nothing received of a growing counter is
below zero. -/
theorem Grown.nonneg_of_unshared {sightings : List Sighting} {received : List Snapshot}
    (h : Grown places sightings received)
    (hu : ∀ e ∈ sightings, ∀ f ∈ sightings, e.2.kind = .count → f.2.kind = .count →
      e.2.labels = f.2.labels → e.1 = f.1) {n : ℕ} {ref : MetricRef} {s t : Snapshot}
    (hs : sightings[n]? = some (some ref, s)) (ht : received[n]? = some t) (hp : places ref)
    (hk : s.kind = .count) : 0 ≤ t.value := by
  apply h.nonneg n ref s t hs ht hp hk
  intro e he
  obtain ⟨hm, hek, hl⟩ := mem_of_latestUnder he
  exact hu e (List.mem_of_mem_take hm) _ (List.mem_of_getElem? hs) hek hk hl

end World

/-- What a publisher that takes differences receives of growing counters is their growth since the
count before under the same labels. None of it is below zero if no two metrics have counts under the
same labels. -/
theorem World.growth_nonneg [Regex.Engine] {config : AgentConfig} {publishers : List Publisher}
    (hc : config.validate = .ok ()) (hp : ∀ p ∈ publishers, p.config.validate = .ok ())
    (sources : Sources) (fleet : Fleet) (places : MetricRef → Prop) :
    ∃ agent, (Agent.ofPublishers config sources publishers).2 = .ok agent ∧
      ∀ activities : List Activity, Growing places ⟨agent, fleet⟩ activities →
        ∀ i p, publishers[i]? = some p → p.config.resetCounters = true →
          let sent := passed p (sightingsOver ⟨agent, fleet⟩ activities)
          let received := (((run ⟨agent, fleet⟩ activities).agent.client.handed i).map (·.1)).flatten
          Grown places sent received ∧
          ((∀ e ∈ sent, ∀ f ∈ sent, e.2.kind = .count → f.2.kind = .count →
              e.2.labels = f.2.labels → e.1 = f.1) →
            ∀ (n : ℕ) ref (s t : Snapshot), sent[n]? = some (some ref, s) → received[n]? = some t →
              places ref → s.kind = .count → 0 ≤ t.value) := by
  refine ⟨_, Agent.ofPublishers_of_valid sources hc hp, ?_⟩
  intro activities h i p hi hr sent received
  have hd : received = Snapshot.differences (sent.map (·.2)) := by
    have hh := handed_run config sources fleet activities hi
    rw [← received_sightingsOver h.resets hr, ← Client.given_fresh,
      ← Client.flatten_flatten_deliveries]
    exact congrArg List.flatten hh
  have hg : Grown places sent received := hd ▸ h.grown p
  exact ⟨hg, fun hu n ref s t hs ht hp hk => hg.nonneg_of_unshared hu hs ht hp hk⟩

namespace World

attribute [local instance] Regex.Engine.estimating

private def counters (labels : List Labels) : Fleet :=
  { metrics := (labels.map (.new · .count)).toArray }

private def grower : Publisher :=
  .memory { config := { PublisherConfig.named "growth" .memory with resetCounters := true } }

private theorem accepted_grower : ∀ p ∈ [grower], p.config.validate = .ok () := by
  simp only [List.mem_cons, List.not_mem_nil, or_false, forall_eq]
  decide

private def bothAlone : Sources :=
  { metrics := [.alone 0, .alone 1] }

private def tracks : List Activity :=
  [.track (.alone 0) 1000000000 10, .track (.alone 1) 1000000000 3, .cycle 2000000000 0,
    .track (.alone 0) 3000000000 2, .cycle 4000000000 1]

private theorem growing_tracks {κ : Type} {agent : Agent κ} (ha : agent.config = {})
    (first second : Labels) :
    Growing (· ∈ [.alone 0, .alone 1]) ⟨agent, counters [first, second]⟩ tracks where
  resets := congrArg AgentConfig.counterReset ha
  held := by
    simp only [List.mem_cons, List.not_mem_nil, or_false, forall_eq_or_imp, forall_eq]
    refine ⟨fun m hm _ => ?_, fun m hm _ => ?_⟩
    · obtain rfl := Option.some.inj hm
      exact ⟨0, Metric.holds_new first, by decide +kernel⟩
    · obtain rfl := Option.some.inj hm
      exact ⟨0, Metric.holds_new second, by decide +kernel⟩
  tracked := by
    unfold IsInt
    simp only [List.mem_cons, List.not_mem_nil, or_false, forall_eq_or_imp, forall_eq]
    decide +kernel
  total := by
    simp only [List.mem_cons, List.not_mem_nil, or_false, forall_eq_or_imp, forall_eq]
    decide +kernel

/-- Counters with labels of their own, read twice. -/
theorem growth_nonneg_of_apart :
    AgentConfig.validate {} = .ok () ∧ (∀ p ∈ [grower], p.config.validate = .ok ()) ∧
      ∃ agent, (Agent.ofPublishers {} bothAlone [grower]).2 = .ok agent ∧
        let w : World Client := ⟨agent, counters [.ofName "requests", .ofName "failures"]⟩
        let received := (((w.run tracks).agent.client.handed 0).map (·.1)).flatten
        Growing (· ∈ [.alone 0, .alone 1]) w tracks ∧ received.length = 4 ∧
          ∀ (n : ℕ) (s t : Snapshot),
            (passed grower (w.sightingsOver tracks))[n]? = some (some (.alone 0), s) →
            received[n]? = some t → s.kind = .count → 0 ≤ t.value := by
  have hc : AgentConfig.validate {} = .ok () := rfl
  refine ⟨hc, accepted_grower, ?_⟩
  obtain ⟨agent, ha, h⟩ := growth_nonneg hc accepted_grower bothAlone
    (counters [.ofName "requests", .ofName "failures"]) (· ∈ [.alone 0, .alone 1])
  obtain rfl := Except.ok.inj ((Agent.ofPublishers_of_valid _ hc accepted_grower).symm.trans ha)
  refine ⟨_, ha, growing_tracks rfl _ _, by decide +kernel, ?_⟩
  intro n s t hs ht hk
  refine (h tracks (growing_tracks rfl _ _) 0 grower rfl rfl).2 ?_ n _ s t hs ht
    List.mem_cons_self hk
  decide +kernel

/-- Two counters with the same labels: the second is taken relative to the first. -/
theorem not_growth_nonneg :
    ¬ ∀ (sources : Sources) (fleet : Fleet) (agent : Agent Client) (activities : List Activity),
      (Agent.ofPublishers {} sources [grower]).2 = .ok agent →
      Growing (· ∈ sources.metrics) ⟨agent, fleet⟩ activities →
      ∀ batch ∈ (run ⟨agent, fleet⟩ activities).agent.client.handed 0, ∀ t ∈ batch.1,
        t.kind = .count → 0 ≤ t.value := by
  intro h
  have hc : AgentConfig.validate {} = .ok () := rfl
  have ha := Agent.ofPublishers_of_valid bothAlone hc accepted_grower
  have hn := h bothAlone (counters [.ofName "requests", .ofName "requests"]) _ tracks ha
    (growing_tracks rfl _ _)
  revert hn
  decide +kernel

end World

end Telemetry
