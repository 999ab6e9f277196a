import Telemetry.Proofs.Agent.Ledger
import Telemetry.Proofs.Client.Delivery
/-!
# What an agent publishes

An agent with a client of its own passes on what each cycle sends in a flush of its own. Main
statements: what a publisher is handed depends on nothing that concerns other publishers, and the
counts of a metric with labels of its own are the numbers that its ledger says were sent.
-/
namespace Telemetry

namespace Agent

theorem ofPublishers_of_valid [Regex.Engine] {config : AgentConfig} {ps : List Publisher}
    (sources : Sources)
    (hc : config.validate = .ok ()) (hp : ∀ p ∈ ps, p.config.validate = .ok ()) :
    (ofPublishers config sources ps).2 =
      .ok { config, sources, client := { slots := ps.map (Slot.fresh config) } } := by
  have hm := Client.ofPublishers_of_valid hc hp
  rw [ofPublishers]
  generalize Client.ofPublishers config ps = made at hm
  obtain ⟨events, made⟩ := made
  subst hm
  rfl

end Agent

namespace World

/-- What the cycles of a run send, cycle by cycle. -/
def sentOver {κ : Type} [BufferedClient κ] : World κ → List Activity → List (List Snapshot)
  | _, [] => []
  | w, a :: activities =>
    match a with
    | .cycle now _ => w.sent now :: sentOver (w.act a) activities
    | _ => sentOver (w.act a) activities

/-- Nothing but the clients of two worlds may differ. -/
structure SameMetrics {κ κ' : Type} (w : World κ) (v : World κ') : Prop where
  config : w.agent.config = v.agent.config
  sources : w.agent.sources = v.agent.sources
  cycles : w.agent.cycles = v.agent.cycles
  fleet : w.fleet = v.fleet

namespace SameMetrics

variable {κ κ' : Type} {w : World κ} {v : World κ'}

theorem sent_eq (h : SameMetrics w v) (now : WallTime) : w.sent now = v.sent now := by
  rw [sent, sent, h.config, h.sources, h.cycles, h.fleet]

variable [BufferedClient κ] [BufferedClient κ']

theorem act (h : SameMetrics w v) (a : Activity) : SameMetrics (w.act a) (v.act a) := by
  have hs : (w.act a).agent.sources = (v.act a).agent.sources := by
    rw [sources_act, sources_act, h.sources]
  have hc : (w.act a).agent.config = (v.act a).agent.config := by
    rw [config_act, config_act, h.config]
  cases a with
  | track ref now value => exact ⟨hc, hs, h.cycles, congrArg (·.track now ref value) h.fleet⟩
  | lookup b key => exact ⟨hc, hs, h.cycles, congrArg (·.lookup b key) h.fleet⟩
  | cycle now clock =>
    refine ⟨hc, hs, congrArg (· + 1) h.cycles, ?_⟩
    rw [World.act, World.act, fleet_cycle, fleet_cycle, h.config, h.sources, h.cycles, h.fleet]

/-- What an agent sends does not depend on its client. -/
theorem sentOver_eq (h : SameMetrics w v) (activities : List Activity) :
    w.sentOver activities = v.sentOver activities := by
  induction activities generalizing w v with
  | nil => rfl
  | cons a activities ih =>
    have ht := ih (h.act a)
    cases a with
    | track ref now value => exact ht
    | lookup b key => exact ht
    | cycle now clock =>
      rw [sentOver, sentOver, h.sent_eq]
      exact congrArg _ ht

end SameMetrics

section Served

variable {start : Slot} {i : Nat} {w : World Client} {flushed : List (List Snapshot)}

theorem served_cycle (h : Client.Served start i { flushed } w.agent.client) (now : WallTime)
    (clock : Instant) : Client.Served start i { flushed := flushed ++ [w.sent now] }
      (w.cycle now clock).agent.client :=
  (h.act (.sendAll (w.sent now))).act (.flush clock)

theorem served_run (h : Client.Served start i { flushed } w.agent.client)
    (activities : List Activity) :
    Client.Served start i { flushed := flushed ++ w.sentOver activities }
      (w.run activities).agent.client := by
  induction activities generalizing w flushed with
  | nil =>
    rw [sentOver, List.append_nil]
    exact h
  | cons a activities ih =>
    cases a with
    | track ref now value => exact ih (w := w.act (.track ref now value)) h
    | lookup b key => exact ih (w := w.act (.lookup b key)) h
    | cycle now clock =>
      have hc := ih (served_cycle h now clock)
      rw [List.append_assoc] at hc
      exact hc

theorem jobs_cycle (now : WallTime) (clock : Instant) :
    (w.cycle now clock).agent.client.jobs = [] :=
  (Client.work_keeps clock (P := fun _ => True) (fun _ _ => trivial) trivial).2

theorem jobs_run (h : w.agent.client.jobs = []) (activities : List Activity) :
    (w.run activities).agent.client.jobs = [] := by
  induction activities generalizing w with
  | nil => exact h
  | cons a activities ih =>
    cases a with
    | track ref now value => exact ih (w := w.act (.track ref now value)) h
    | lookup b key => exact ih (w := w.act (.lookup b key)) h
    | cycle now clock => exact ih (jobs_cycle now clock)

end Served

/-- A fleet with a new agent for some accepted publishers. -/
def ofPublishers [Regex.Engine] (config : AgentConfig) (sources : Sources) (ps : List Publisher)
    (fleet : Fleet) : World Client where
  agent := { config, sources, client := { slots := ps.map (Slot.fresh config) } }
  fleet := fleet

section Handed

variable (config : AgentConfig) (sources : Sources) (fleet : Fleet) {ps qs : List Publisher}
  {i j : Nat} {p : Publisher} (activities : List Activity)

/-- The batches handed to a publisher are cut from what the cycles send and from nothing else. -/
theorem handed_run [Regex.Engine] (h : ps[i]? = some p) :
    (((ofPublishers config sources ps fleet).run activities).agent.client.handed i).map (·.1) =
      ((Slot.fresh config p).deliveries []
        ((ofPublishers config sources ps fleet).sentOver activities)).flatten := by
  have hs := served_run (w := ofPublishers config sources ps fleet)
    (Client.served_fresh config h) activities
  have hj := jobs_run (w := ofPublishers config sources ps fleet) rfl activities
  have hb := hs.batches_eq
  rw [Client.waiting, hj, List.filterMap_nil, List.append_nil] at hb
  exact hb

/-- A publisher is handed the same batches among any other publishers. -/
theorem handed_run_eq [Regex.Engine] (h : ps[i]? = some p) (h' : qs[j]? = some p) :
    (((ofPublishers config sources ps fleet).run activities).agent.client.handed i).map (·.1) =
      (((ofPublishers config sources qs fleet).run activities).agent.client.handed j).map (·.1) := by
  have hw : SameMetrics (ofPublishers config sources ps fleet) (ofPublishers config sources qs fleet) :=
    ⟨rfl, rfl, rfl, rfl⟩
  rw [handed_run config sources fleet activities h, handed_run config sources fleet activities h',
    hw.sentOver_eq]

end Handed

section Counts

variable {κ : Type} {ref : MetricRef} {labels : Labels} {w : World κ} {l : Ledger}

/-- A cycle at `now` sends no count under the labels but that of the metric at `ref`. -/
structure Lone (ref : MetricRef) (labels : Labels) (w : World κ) (now : WallTime) : Prop where
  provided : ∀ s ∈ (Collection.provided w.agent.cycles now.seconds w.agent.sources.tags w.fleet
    w.agent.sources.providers).1, ¬ s.Counts labels
  read : ∀ r ∈ w.agent.sources.live w.fleet, r ≠ ref → ∀ s ∈ w.reading now r, ¬ s.Counts labels
  copied : ∀ registry ∈ w.agent.sources.registries, ∀ reading ∈ registry w.agent.cycles,
    ¬ (reading.toSnapshot now.seconds w.agent.sources.tags).Counts labels

theorem counts_eq_nil {ss : List Snapshot} (h : ∀ s ∈ ss, ¬ s.Counts labels) :
    Snapshot.counts labels ss = [] := by
  rw [Snapshot.counts, List.map_eq_nil_iff, List.filter_eq_nil_iff]
  intro s hs
  simpa using h s hs

theorem counts_others {now : WallTime} (hl : w.Lone ref labels now) {refs : List MetricRef}
    (hm : ∀ r ∈ refs, r ∈ w.agent.sources.live w.fleet) (hn : ref ∉ refs) :
    Snapshot.counts labels (refs.filterMap (w.reading now)) = [] := by
  apply counts_eq_nil
  intro s hs
  obtain ⟨r, hr, he⟩ := List.mem_filterMap.1 hs
  have hne : r ≠ ref := fun h => hn (h ▸ hr)
  exact hl.read r (hm r hr) hne s he

theorem counts_of_reading (h : Booked ref labels .count w l) (now : WallTime) :
    ∀ s ∈ w.reading now ref, s.Counts labels := by
  intro s hs
  obtain ⟨lastUpdate, hm⟩ := h.metric
  rw [reading, Collection.reading_of_get? hm] at hs
  split at hs
  · rw [← Option.some.inj hs]
    exact ⟨rfl, rfl⟩
  · cases hs

/-- What a cycle sends of the counter is the one number read from it, if it is read. -/
theorem counts_sent (h : Booked ref labels .count w l) {now : WallTime} (hl : w.Lone ref labels now) :
    Snapshot.counts labels (w.sent now) = ((w.reading now ref).map (·.value)).toList := by
  have hp := counts_eq_nil hl.provided
  have hc : Snapshot.counts labels (w.agent.sources.registries.flatMap fun registry =>
      (registry w.agent.cycles).map (·.toSnapshot now.seconds w.agent.sources.tags)) = [] := by
    apply counts_eq_nil
    intro s hs
    obtain ⟨registry, hr, hs⟩ := List.mem_flatMap.1 hs
    obtain ⟨reading, hm, rfl⟩ := List.mem_map.1 hs
    exact hl.copied registry hr reading hm
  obtain ⟨before, after, hlive⟩ := List.append_of_mem h.mem_live
  have hn := w.agent.sources.nodup_live w.fleet
  rw [hlive] at hn
  obtain ⟨hnot, -⟩ := List.nodup_cons.1 (List.nodup_middle.1 hn)
  have hb : Snapshot.counts labels (before.filterMap (w.reading now)) = [] := by
    apply counts_others hl (fun r hr => ?_) fun hm => hnot (List.mem_append_left _ hm)
    rw [hlive]
    exact List.mem_append_left _ hr
  have ha : Snapshot.counts labels (after.filterMap (w.reading now)) = [] := by
    apply counts_others hl (fun r hr => ?_) fun hm => hnot (List.mem_append_right _ hm)
    rw [hlive]
    exact List.mem_append_right _ (List.mem_cons_of_mem _ hr)
  rw [sent_eq, hlive, Snapshot.counts_append, Snapshot.counts_append, hp, hc,
    List.filterMap_append, Snapshot.counts_append, hb, List.filterMap_cons]
  cases hs : w.reading now ref with
  | none => simpa using ha
  | some s =>
    simp only [Snapshot.counts_cons, if_pos (counts_of_reading h now s hs), ha]
    rfl

/-- No cycle of a run sends a count under the labels but that of the metric at `ref`. -/
def Unshared [BufferedClient κ] (ref : MetricRef) (labels : Labels) (w : World κ)
    (activities : List Activity) : Prop :=
  ∀ before now clock after, activities = before ++ .cycle now clock :: after →
    (w.run before).Lone ref labels now

theorem Unshared.tail [BufferedClient κ] {a : Activity} {activities : List Activity}
    (h : w.Unshared ref labels (a :: activities)) : (w.act a).Unshared ref labels activities := by
  rintro before now clock after rfl
  exact h (a :: before) now clock after rfl

/-- The counts that a run sends under the labels are the numbers in the ledger. -/
theorem counts_sentOver [BufferedClient κ] {activities : List Activity}
    (h : Booked ref labels .count w l) (hu : w.Unshared ref labels activities) :
    (Ledger.along ref w l activities).closed.map (·.2) =
      l.closed.map (·.2) ++ Snapshot.counts labels (w.sentOver activities).flatten := by
  induction activities generalizing w l with
  | nil =>
    rw [sentOver, List.flatten_nil]
    exact (List.append_nil _).symm
  | cons a activities ih =>
    have ht := ih (h.act a) hu.tail
    rw [Ledger.along, ht]
    cases a with
    | track r now value =>
      rw [Ledger.note]
      split <;> rfl
    | lookup b key => rfl
    | cycle now clock =>
      rw [sentOver, List.flatten_cons, Snapshot.counts_append, counts_sent h (hu [] now clock _ rfl),
        ← List.append_assoc, Ledger.note]
      cases hs : w.reading now ref with
      | none => simp [act]
      | some s => simp [act, Ledger.report]

end Counts

end World

/-- The filters of a publisher pass all counts under the labels. -/
def PublisherConfig.Allows [Regex.Engine] (c : PublisherConfig) (labels : Labels) : Prop :=
  ∀ s : Snapshot, s.Counts labels → (Filter.chain c.filters.1).passes s = true

/-- What a publisher makes of the values of a counter: their differences if it asks for them and
the agent leaves them to the publishers. -/
def PublisherConfig.receipts (c : PublisherConfig) (config : AgentConfig) (xs : List Float) :
    List Float :=
  if c.resetCounters ∧ config.counterReset = .publisher then Snapshot.changes 0 xs else xs

theorem counts_filter_passes [Regex.Engine] {p : Publisher} {labels : Labels}
    (h : p.config.Allows labels) (sent : List Snapshot) :
    Snapshot.counts labels (sent.filter (Filter.chain p.config.filters.1).passes) =
      Snapshot.counts labels sent := by
  rw [Snapshot.counts, Snapshot.counts, List.filter_filter]
  congr 1
  apply List.filter_congr
  intro s _
  by_cases hs : s.Counts labels
  · simp [hs, h s hs]
  · simp [hs]

theorem counts_received [Regex.Engine] (config : AgentConfig) {p : Publisher} {labels : Labels}
    (h : p.config.Allows labels) (sent : List Snapshot) :
    Snapshot.counts labels (Client.received config p sent) =
      p.config.receipts config (Snapshot.counts labels sent) := by
  rw [Client.received, PublisherConfig.receipts]
  split
  · rw [Snapshot.differences_eq, Snapshot.counts_differencesAfter, counts_filter_passes h]
    rfl
  · exact counts_filter_passes h sent

namespace Client

/-- The counts under the labels that publisher `i` has received. -/
def counts (c : Client) (i : Nat) (labels : Labels) : List Float :=
  Snapshot.counts labels (published (c.handed i)).flatten

theorem published_of_forall {handed : List (List Snapshot × Report)}
    (h : ∀ entry ∈ handed, entry.2.outcome = .published) : published handed = handed.map (·.1) := by
  rw [published, List.filter_eq_self.2]
  intro entry he
  simpa using h entry he

end Client

/-- A publisher that takes all its batches receives of a counter what the ledger says was sent. -/
theorem World.counts_run [Regex.Engine] {config : AgentConfig} {sources : Sources}
    {ps : List Publisher}
    {fleet : Fleet} {ref : MetricRef} {labels : Labels} {activities : List Activity}
    (hb : Booked ref labels .count (ofPublishers config sources ps fleet) {})
    (hu : (ofPublishers config sources ps fleet).Unshared ref labels activities)
    {i : Nat} {p : Publisher} (hi : ps[i]? = some p) (hf : p.config.Allows labels)
    (hd : ∀ entry ∈ ((ofPublishers config sources ps fleet).run activities).agent.client.handed i,
      entry.2.outcome = .published) :
    ((ofPublishers config sources ps fleet).run activities).agent.client.counts i labels =
      p.config.receipts config
        ((Ledger.along ref (ofPublishers config sources ps fleet) {} activities).closed.map (·.2)) := by
  have hk := counts_sentOver hb hu
  rw [List.map_nil, List.nil_append] at hk
  rw [Client.counts, Client.published_of_forall hd,
    handed_run config sources fleet activities hi, Client.flatten_flatten_deliveries,
    Client.given_fresh, counts_received config hf, hk]

end Telemetry
