import Telemetry.Proofs.Client.Run
/-!
# Delivery of snapshots

Between a flush and a dispatcher nothing is lost, doubled or put out of order. Main statement: the
batches handed to a publisher are those cut, flush by flush, from what its filter passes and its
differ makes of it, and a publisher to memory keeps just the published ones.
-/
namespace Telemetry

namespace Client

/-- What was sent in a run, cut where it was flushed. -/
structure Outbox where
  flushed : List (List Snapshot) := []
  unflushed : List Snapshot := []

def Outbox.act (b : Outbox) : Action → Outbox
  | .send s => { b with unflushed := b.unflushed ++ [s] }
  | .sendAll ss => { b with unflushed := b.unflushed ++ ss }
  | .flush _ | .submit => { flushed := b.flushed ++ [b.unflushed] }
  | .next _ | .setFailing .. => b

def Outbox.after (actions : List Action) : Outbox :=
  actions.foldl act {}

def Action.sent : Action → List Snapshot
  | send s => [s]
  | sendAll ss => ss
  | _ => []

theorem Outbox.flatten_act (b : Outbox) (a : Action) :
    (b.act a).flushed.flatten ++ (b.act a).unflushed =
      b.flushed.flatten ++ b.unflushed ++ a.sent := by
  cases a <;> simp [act, Action.sent]

/-- An outbox holds all that was sent, in order. -/
theorem Outbox.flatten_after (actions : List Action) :
    (after actions).flushed.flatten ++ (after actions).unflushed =
      actions.flatMap Action.sent := by
  have h (b : Outbox) : (actions.foldl act b).flushed.flatten ++ (actions.foldl act b).unflushed =
      b.flushed.flatten ++ b.unflushed ++ actions.flatMap Action.sent := by
    induction actions generalizing b with
    | nil => simp
    | cons a actions ih => rw [List.foldl_cons, ih, flatten_act, List.flatMap_cons, List.append_assoc]
  exact h {}

/-- The batches that were published, out of those handed over. -/
def published (handed : List (List Snapshot × Report)) : List (List Snapshot) :=
  (handed.filter (·.2.outcome = .published)).map (·.1)

end Client

/-- The batches cut for a publisher from each of some flushes, if it was given `seen` before. -/
def Slot.deliveries (s : Slot) (seen : List Snapshot) :
    List (List Snapshot) → List (List (List Snapshot))
  | [] => []
  | ss :: rest =>
    let allowed := ss.filter s.filter.passes
    s.batches (s.given seen allowed) :: s.deliveries (seen ++ allowed) rest

theorem Slot.deliveries_append (s : Slot) (seen : List Snapshot) (fs : List (List Snapshot))
    (ss : List Snapshot) :
    s.deliveries seen (fs ++ [ss]) = s.deliveries seen fs ++
      [s.batches (s.given (seen ++ fs.flatten.filter s.filter.passes)
        (ss.filter s.filter.passes))] := by
  induction fs generalizing seen with
  | nil => simp [deliveries]
  | cons f fs ih =>
    simp only [List.cons_append, deliveries, ih, List.flatten_cons, List.filter_append,
      List.append_assoc]

namespace Client

theorem published_append_singleton (handed : List (List Snapshot × Report))
    (last : List Snapshot × Report) :
    published (handed ++ [last]) = published handed ++
      if last.2.outcome = .published then [last.1] else [] := by
  rw [published, List.filter_append, List.map_append, ← published]
  split <;> simp [*]

/-- Publisher `i`, which began as `start`, has been served what the outbox says. -/
structure Served (start : Slot) (i : Nat) (b : Outbox) (c : Client) : Prop where
  closed_eq : c.closed = false
  queue_eq : c.queue.toList = b.unflushed
  batches_eq : (c.handed i).map (·.1) ++ c.waiting i = (start.deliveries [] b.flushed).flatten
  slot : ∃ s, c.slots[i]? = some s ∧ s.Alike start ∧
    s.Knows (b.flushed.flatten.filter start.filter.passes) ∧
    ∀ kept, start.Holds kept → s.Holds (kept ++ published (c.handed i))

namespace Served

variable {start : Slot} {i : Nat} {b : Outbox} {c : Client}

theorem send (h : Served start i b c) (ss : List Snapshot) :
    Served start i { b with unflushed := b.unflushed ++ ss }
      { c with queue := c.queue ++ ss.toArray } where
  closed_eq := h.closed_eq
  queue_eq := by simp [h.queue_eq]
  batches_eq := h.batches_eq
  slot := h.slot

theorem submit (h : Served start i b c) :
    Served start i { flushed := b.flushed ++ [b.unflushed] } c.submit.1 := by
  obtain ⟨s, hs, ha, hk, hh⟩ := h.slot
  have hw := waiting_submit h.closed_eq hs
  rw [hk.select_fst, ha.filter, ha.given_eq, ha.batches_eq, h.queue_eq] at hw
  have hn := hk.select_snd c.queue.toList
  rw [ha.filter, h.queue_eq] at hn
  refine ⟨closed_submit h.closed_eq, ?_, ?_, _, slots_submit h.closed_eq hs, ?_, ?_, ?_⟩
  · rw [queue_submit h.closed_eq]
  · rw [handed_submit h.closed_eq, hw, Slot.deliveries_append, List.flatten_append, ← h.batches_eq]
    simp
  · exact (Slot.select_alike _).trans ha
  · simpa [h.queue_eq] using hn
  · intro kept hst
    rw [handed_submit h.closed_eq]
    obtain ⟨p, hp, hb⟩ := hh kept hst
    exact ⟨p, (Slot.select_publisher _).trans hp, hb⟩

theorem next (h : Served start i b c) (now : Instant) : Served start i b (c.next now) := by
  cases hj : c.jobs with
  | nil => rwa [next_of_jobs_eq_nil now hj]
  | cons job rest =>
    rw [next_of_jobs_eq_cons now hj]
    obtain ⟨s, hs, ha, hk, hh⟩ := h.slot
    have hb := h.batches_eq
    rw [waiting, hj, List.filterMap_cons] at hb
    have hc : { c with jobs := rest }.closed = false := h.closed_eq
    by_cases hi : job.slot = i
    · subst hi
      have hd := handed_perform (c := { c with jobs := rest }) now job none hs
      refine ⟨?_, ?_, ?_, _, slots_perform (c := { c with jobs := rest }) now job none hs, ?_, ?_, ?_⟩
      · rw [closed_perform, hc]
      · rw [queue_perform, h.queue_eq]
      · rw [hd, waiting, jobs_perform, ← hb]
        simp [Job.batchFor?, handed]
      · exact (Slot.dispatch_alike now job.batch none).trans ha
      · exact hk
      · intro kept hst
        have hp := (hh kept hst).dispatch now job.batch none
        rw [hd, published_append_singleton, ← List.append_assoc]
        exact hp
    · have hd := handed_perform_of_ne (c := { c with jobs := rest }) now job none hi
      refine ⟨?_, ?_, ?_, s, ?_, ha, hk, ?_⟩
      · rw [closed_perform, hc]
      · rw [queue_perform, h.queue_eq]
      · rw [hd, waiting, jobs_perform, ← hb]
        simp [Job.batchFor?, handed, hi]
      · rw [slots_perform_of_ne _ _ _ hi]
        exact hs
      · rwa [hd]

theorem work (h : Served start i b c) (now : Instant) : Served start i b (c.work now) :=
  (work_keeps now (fun _ hc => hc.next now) h).1

theorem setFailing (h : Served start i b c) (j : Nat) (failing : Bool) :
    Served start i b (c.modify j (·.setFailing failing)) := by
  obtain ⟨s, hs, ha, hk, hh⟩ := h.slot
  refine ⟨h.closed_eq, h.queue_eq, h.batches_eq, ?_⟩
  by_cases hj : j = i
  · subst hj
    refine ⟨{ s with publisher := s.publisher.setFailing failing }, ?_, ?_, hk,
      fun kept hst => (hh kept hst).setFailing failing⟩
    · simp [modify, hs]
    · exact (Slot.setFailing_alike failing).trans ha
  · refine ⟨s, ?_, ha, hk, hh⟩
    simp [modify, hj, hs]

theorem act (h : Served start i b c) (a : Action) : Served start i (b.act a) (c.act a) := by
  cases a with
  | send s =>
    rw [Client.act, send_of_open h.closed_eq]
    simpa [Outbox.act] using h.send [s]
  | sendAll ss =>
    rw [Client.act, sendAll_of_open h.closed_eq]
    exact h.send ss
  | flush now => exact h.submit.work now
  | submit => exact h.submit
  | next now => exact h.next now
  | setFailing j failing => exact h.setFailing j failing

theorem run (h : Served start i b c) (actions : List Action) :
    Served start i (actions.foldl Outbox.act b) (c.run actions) := by
  induction actions generalizing b c with
  | nil => exact h
  | cons a actions ih => exact ih (h.act a)

end Served

theorem slotsOf_of_valid [Regex.Engine] {config : AgentConfig} {ps : List Publisher}
    (h : ∀ p ∈ ps, p.config.validate = .ok ()) :
    (slotsOf config ps).2 = .ok (ps.map (Slot.fresh config)) := by
  induction ps with
  | nil => rfl
  | cons p ps ih =>
    have hp := Slot.ofPublisher_of_valid config (h p List.mem_cons_self)
    have hps := ih fun q hq => h q (List.mem_cons_of_mem p hq)
    rw [slotsOf]
    generalize Slot.ofPublisher config p = made at hp
    obtain ⟨events, made⟩ := made
    subst hp
    simp only [hps]
    rfl

theorem ofPublishers_of_valid [Regex.Engine] {config : AgentConfig} {ps : List Publisher}
    (hc : config.validate = .ok ()) (h : ∀ p ∈ ps, p.config.validate = .ok ()) :
    (ofPublishers config ps).2 = .ok { slots := ps.map (Slot.fresh config) } := by
  rw [ofPublishers, hc]
  simp only [slotsOf_of_valid h]
  rfl

theorem served_fresh [Regex.Engine] (config : AgentConfig) {ps : List Publisher} {i : Nat}
    {p : Publisher} (h : ps[i]? = some p) :
    Served (Slot.fresh config p) i {} { slots := ps.map (Slot.fresh config) } where
  closed_eq := rfl
  queue_eq := rfl
  batches_eq := rfl
  slot := by
    refine ⟨Slot.fresh config p, by simp [h], .refl _, Slot.fresh_knows config p, ?_⟩
    intro kept hk
    simpa [published, handed] using hk

section Deliveries

variable (s : Slot) (seen : List Snapshot) (fs : List (List Snapshot))

theorem flatten_flatten_deliveries :
    (s.deliveries seen fs).flatten.flatten = s.given seen (fs.flatten.filter s.filter.passes) := by
  induction fs generalizing seen with
  | nil => simp [Slot.deliveries]
  | cons ss fs ih =>
    rw [Slot.deliveries, List.flatten_cons, List.flatten_append, Slot.flatten_batches, ih,
      List.flatten_cons, List.filter_append, Slot.given_append]

theorem map_length_deliveries :
    (s.deliveries seen fs).map (·.flatten.length) =
      fs.map fun ss => (ss.filter s.filter.passes).length := by
  induction fs generalizing seen with
  | nil => rfl
  | cons ss fs ih =>
    rw [Slot.deliveries, List.map_cons, ih, Slot.flatten_batches, Slot.length_given, List.map_cons]

theorem exists_of_mem_deliveries {group : List (List Snapshot)}
    (h : group ∈ s.deliveries seen fs) : ∃ ss, group = s.batches ss := by
  induction fs generalizing seen with
  | nil => simp [Slot.deliveries] at h
  | cons ss fs ih =>
    rcases List.mem_cons.1 h with rfl | h
    · exact ⟨_, rfl⟩
    · exact ih _ h

end Deliveries

/-- What a publisher has to receive of all that was sent. -/
def received [Regex.Engine] (config : AgentConfig) (p : Publisher) (sent : List Snapshot) :
    List Snapshot :=
  let allowed := sent.filter (Filter.chain p.config.filters.1).passes
  if p.config.resetCounters ∧ config.counterReset = .publisher then Snapshot.differences allowed
  else allowed

/-- One group of batches was cut from each flush, and the worker hands them over in order. -/
structure Delivered [Regex.Engine] (config : AgentConfig) (p : Publisher) (i : Nat) (b : Outbox)
    (groups : List (List (List Snapshot))) (c : Client) : Prop where
  handed : (c.handed i).map (·.1) ++ c.waiting i = groups.flatten
  received : groups.flatten.flatten = received config p b.flushed.flatten
  unmixed : groups.map (·.flatten.length) =
    b.flushed.map fun ss => (ss.filter (Filter.chain p.config.filters.1).passes).length
  sizes : ∀ group ∈ groups,
    (∀ batch ∈ group, batch ≠ [] ∧ batch.length ≤ p.config.effectiveBatchSize) ∧
    ∀ batch ∈ group.dropLast, batch.length = p.config.effectiveBatchSize
  kept : ∀ m, p = .memory m → ∃ s m', c.slots[i]? = some s ∧ s.publisher = .memory m' ∧
    m'.batches.toList = m.batches.toList ++ published (c.handed i)

theorem given_fresh [Regex.Engine] (config : AgentConfig) (p : Publisher) (ss : List Snapshot) :
    (Slot.fresh config p).given [] (ss.filter (Slot.fresh config p).filter.passes) =
      received config p ss := by
  by_cases h : p.config.resetCounters ∧ config.counterReset = .publisher
  · simp [Slot.given, Slot.fresh, received, h, Snapshot.differences_eq]
  · have hd : (p.config.resetCounters && config.counterReset == .publisher) = false := by
      simpa using h
    simp [Slot.given, Slot.fresh, received, if_neg h, hd]

theorem Served.delivered [Regex.Engine] {config : AgentConfig} {p : Publisher} {i : Nat}
    {b : Outbox} {c : Client} (h : Served (Slot.fresh config p) i b c) :
    Delivered config p i b ((Slot.fresh config p).deliveries [] b.flushed) c where
  handed := h.batches_eq
  received := by rw [flatten_flatten_deliveries, given_fresh]
  unmixed := map_length_deliveries _ _ _
  sizes := by
    intro group hg
    obtain ⟨ss, rfl⟩ := exists_of_mem_deliveries _ _ _ hg
    have hn : 0 < p.config.effectiveBatchSize := p.config.effectiveBatchSize_pos
    refine ⟨fun batch hb => ⟨ne_nil_of_mem_chunks hb, length_le_of_mem_chunks hn hb⟩, ?_⟩
    intro batch hb
    exact length_of_mem_dropLast_chunks hn hb
  kept := by
    rintro m rfl
    obtain ⟨s, hs, -, -, hh⟩ := h.slot
    obtain ⟨m', hm, hb⟩ := hh m.batches.toList ⟨m, rfl, rfl⟩
    exact ⟨s, m', hs, hm, hb⟩

theorem jobs_act {c : Client} (h : c.closed = false) (hj : c.jobs = []) {a : Action}
    (ha : a ≠ .submit) : (c.act a).jobs = [] := by
  cases a with
  | send s => rwa [act, send_of_open h]
  | sendAll ss => rwa [act, sendAll_of_open h]
  | flush now => exact (work_keeps now (P := fun _ => True) (fun _ _ => trivial) trivial).2
  | submit => exact absurd rfl ha
  | next now => rwa [act, next_of_jobs_eq_nil now hj]
  | setFailing i failing => exact hj

theorem Served.jobs_run {start : Slot} {i : Nat} {b : Outbox} {c : Client}
    (h : Served start i b c) (hj : c.jobs = []) {actions : List Action}
    (ha : ∀ a ∈ actions, a ≠ .submit) : (c.run actions).jobs = [] := by
  induction actions generalizing b c with
  | nil => exact hj
  | cons a actions ih =>
    apply ih (h.act a)
    · exact jobs_act h.closed_eq hj (ha a List.mem_cons_self)
    · exact fun a' ha' => ha a' (List.mem_cons_of_mem a ha')

/-- A client of accepted publishers hands each of them, flush by flush and in full batches but for
the last of each flush, what its filters pass of all that was flushed, in the order in which it was
sent. No batch waits for the worker if every flush lets it finish. -/
theorem delivered_in_order [Regex.Engine] {config : AgentConfig} {publishers : List Publisher}
    (hc : config.validate = .ok ()) (hp : ∀ p ∈ publishers, p.config.validate = .ok ()) :
    ∃ client, (ofPublishers config publishers).2 = .ok client ∧
      ∀ (actions : List Action) (i : Nat) (p : Publisher), publishers[i]? = some p →
        (∃ groups, Delivered config p i (.after actions) groups (client.run actions)) ∧
        (Outbox.after actions).flushed.flatten ++ (client.run actions).queue.toList =
          actions.flatMap Action.sent ∧
        ((∀ a ∈ actions, a ≠ .submit) → (client.run actions).waiting i = []) := by
  refine ⟨_, ofPublishers_of_valid hc hp, ?_⟩
  intro actions i p hi
  have h := (served_fresh config hi).run actions
  refine ⟨⟨_, h.delivered⟩, ?_, ?_⟩
  · rw [h.queue_eq]
    exact Outbox.flatten_after actions
  · intro ha
    have hj := (served_fresh config hi).jobs_run rfl ha
    rw [waiting, hj, List.filterMap_nil]

attribute [local instance] Regex.Engine.estimating

private def countedTwice : List Action :=
  [.send { labels := .ofName "requests", kind := .count, value := 5, timestamp := 0, tags := {} },
    .flush 0, .setFailing 0 true,
    .send { labels := .ofName "requests", kind := .count, value := 8, timestamp := 0, tags := {} },
    .flush 1]

private def differing : Publisher :=
  .memory { config := { PublisherConfig.named "diff" .memory with resetCounters := true } }

theorem delivered_to_differing :
    AgentConfig.validate {} = .ok () ∧ (∀ p ∈ [differing], p.config.validate = .ok ()) ∧
      ∃ client, (ofPublishers {} [differing]).2 = .ok client ∧
        ∃ groups, Delivered {} differing 0 (.after countedTwice) groups
          (client.run countedTwice) := by
  have hc : AgentConfig.validate {} = .ok () := rfl
  have hp : ∀ p ∈ [differing], p.config.validate = .ok () := by
    simp only [List.mem_singleton, forall_eq]
    decide
  obtain ⟨client, hm, hd⟩ := delivered_in_order hc hp
  exact ⟨hc, hp, client, hm, (hd countedTwice 0 differing rfl).1⟩

end Client

end Telemetry
