import Telemetry.Proofs.Client.Delivery
import Telemetry.Proofs.Dispatcher.Clock
/-!
# Publishers side by side

The publishers of a client share its buffer and its worker. Main statement: while the clock stands,
what a publisher gets to see depends on what concerns it alone, whatever other publishers there are
and whatever becomes of them.
-/
namespace Telemetry

namespace Slot

/-- The slot if the clock has always stood at `t`. -/
def heldAt (t : Instant) (s : Slot) : Slot :=
  { s with circuit := s.circuit.heldAt t }

variable (t : Instant) (s : Slot)

theorem timeless_call (batch : List Snapshot) : Dispatcher.Timeless (call batch none) where
  now _ _ := rfl
  heldAt _ _ _ := rfl

theorem select_heldAt (ss : List Snapshot) :
    (s.heldAt t).select ss = ((s.select ss).1, (s.select ss).2.heldAt t) := by
  cases s with
  | mk publisher filter diff circuit => cases diff <;> rfl

theorem dispatch_heldAt (batch : List Snapshot) :
    (s.heldAt t).dispatch t batch none =
      ((s.dispatch 0 batch none).1, (s.dispatch 0 batch none).2.1,
        (s.dispatch 0 batch none).2.2.heldAt t) := by
  have h := s.dispatcher.dispatch_heldAt (timeless_call batch) t
    (s := { world := s.publisher, circuit := s.circuit }) rfl
  rw [dispatch]
  exact congrArg (fun r => (r.1, r.2.events,
    { s with publisher := r.2.world, circuit := r.2.circuit })) h

end Slot

namespace Client

/-- The clock stands at `t` when this is done. -/
def Action.StandsAt (t : Instant) : Action → Prop
  | flush now | next now => now = t
  | _ => True

/-- What an action is to publisher `i`, as if the clock stood at 0 and there were no other. The
batches of others do not concern it, nor whether others fail. -/
def Action.seenFrom? (i : Nat) (c : Client) : Action → Option Action
  | send s => some (send s)
  | sendAll ss => some (sendAll ss)
  | flush _ => some (flush 0)
  | submit => some submit
  | next _ => if c.jobs.head?.map Job.slot = some i then some (next 0) else none
  | setFailing k failing => if k = i then some (setFailing 0 failing) else none

/-- What publisher `i` has seen: the batches handed to its dispatcher with their reports, the calls
to it in order, all that it keeps, and its circuit but for the instant at which it opened. -/
structure View where
  handed : List (List Snapshot × Report)
  calls : List (List Snapshot)
  publisher : Publisher
  circuit : Option Circuit

def view? (c : Client) (i : Nat) : Option View :=
  c.slots[i]?.map fun s =>
    { handed := c.handed i
      calls := (c.handed i).flatMap fun entry => List.replicate entry.2.calls entry.1
      publisher := s.publisher
      circuit := s.circuit?.map (Circuit.heldAt 0) }

/-- A run as publisher `i` gets to see it: what concerns it, and its view after each of these. -/
def seen (i : Nat) (c : Client) : List Action → List (Action × Option View)
  | [] => []
  | a :: actions =>
    match a.seenFrom? i c with
    | some b => (b, (c.act a).view? i) :: seen i (c.act a) actions
    | none => seen i (c.act a) actions

/-- A run of a client with one publisher, with the view after each action. -/
def seenAlone (c : Client) : List Action → List (Action × Option View)
  | [] => []
  | a :: actions => (a, (c.act a).view? 0) :: seenAlone (c.act a) actions

/-- At a clock that stands at `t`, publisher `i` of `c` is where the only publisher of `l` is at a
clock that stands at 0. -/
structure Mirrors (i : Nat) (t : Instant) (c l : Client) : Prop where
  isOpen : c.closed = false ∧ l.closed = false
  queue : c.queue = l.queue
  slot : ∃ s, l.slots = [s] ∧ c.slots[i]? = some (s.heldAt t)
  jobs : l.jobs = (c.waiting i).map (Job.mk 0)
  handed : c.handed i = l.handed 0

theorem submit_of_slots_eq {l : Client} {s : Slot} (h : l.closed = false) (hs : l.slots = [s]) :
    l.submit.1.slots = [(s.select l.queue.toList).2] ∧
      l.submit.1.jobs =
        l.jobs ++ (s.batches (s.select l.queue.toList).1).map (Job.mk 0) := by
  by_cases hq : l.queue = #[]
  · rw [submit_of_queue_eq hq, hq, select_nil, Slot.batches, chunks_nil]
    exact ⟨hs, (List.append_nil _).symm⟩
  · have hb := (Slot.select_alike (s := s) l.queue.toList).batches_eq
    simp [submit, h, hq, hs, hb]

namespace Mirrors

variable {i : Nat} {t : Instant} {c l : Client}

theorem view?_eq (h : Mirrors i t c l) : c.view? i = l.view? 0 := by
  obtain ⟨s, hl, hc⟩ := h.slot
  simp only [view?, hl, hc, h.handed, List.getElem?_cons_zero, Option.map_some]
  have he : (s.heldAt t).circuit?.map (Circuit.heldAt 0) = s.circuit?.map (Circuit.heldAt 0) := by
    have hd : (s.heldAt t).dispatcher = s.dispatcher := rfl
    rw [Slot.circuit?, Slot.circuit?, hd, Option.map_map, Option.map_map]
    congr 1
    funext _
    exact Circuit.heldAt_heldAt 0 s.circuit t
  rw [he]
  rfl

theorem send (h : Mirrors i t c l) (ss : Array Snapshot) :
    Mirrors i t { c with queue := c.queue ++ ss } { l with queue := l.queue ++ ss } where
  isOpen := h.isOpen
  queue := by rw [h.queue]
  slot := h.slot
  jobs := h.jobs
  handed := h.handed

theorem submit (h : Mirrors i t c l) : Mirrors i t c.submit.1 l.submit.1 := by
  obtain ⟨hc, hl⟩ := h.isOpen
  obtain ⟨s, hls, hcs⟩ := h.slot
  obtain ⟨hs, hj⟩ := submit_of_slots_eq hl hls
  have hsel := Slot.select_heldAt t s c.queue.toList
  have hb : (s.heldAt t).batches = s.batches := rfl
  constructor
  · exact ⟨closed_submit hc, closed_submit hl⟩
  · rw [queue_submit hc, queue_submit hl]
  · refine ⟨_, hs, ?_⟩
    rw [slots_submit hc hcs, hsel, h.queue]
  · rw [hj, waiting_submit hc hcs, hsel, hb, h.jobs, h.queue, List.map_append]
  · rw [handed_submit hc, handed_submit hl, h.handed]

/-- The worker does a batch of another publisher. -/
theorem next_of_ne (h : Mirrors i t c l) {job : Job} {rest : List Job} (hj : c.jobs = job :: rest)
    (hi : job.slot ≠ i) (now : Instant) : Mirrors i t (c.next now) l := by
  have hw := h.jobs
  rw [waiting, hj, List.filterMap_cons] at hw
  rw [next_of_jobs_eq_cons now hj]
  obtain ⟨s, hls, hcs⟩ := h.slot
  constructor
  · exact ⟨(closed_perform now job none).trans h.isOpen.1, h.isOpen.2⟩
  · rw [queue_perform]
    exact h.queue
  · refine ⟨s, hls, ?_⟩
    rw [slots_perform_of_ne now job none hi]
    exact hcs
  · rw [waiting, jobs_perform, hw]
    simp [Job.batchFor?, hi]
  · rw [handed_perform_of_ne now job none hi]
    exact h.handed

/-- The worker does a batch of publisher `i`. -/
theorem next_of_eq (h : Mirrors i t c l) {job : Job} {rest : List Job} (hj : c.jobs = job :: rest)
    (hi : job.slot = i) : l.jobs ≠ [] ∧ Mirrors i t (c.next t) (l.next 0) := by
  subst hi
  let later := (rest.filterMap (Job.batchFor? job.slot)).map (Job.mk 0)
  have hw : l.jobs = ⟨0, job.batch⟩ :: later := by
    rw [h.jobs, waiting, hj, List.filterMap_cons]
    simp [Job.batchFor?, later]
  refine ⟨by simp [hw], ?_⟩
  obtain ⟨s, hls, hcs⟩ := h.slot
  have hs : l.slots[0]? = some s := by rw [hls, List.getElem?_cons_zero]
  have hd := Slot.dispatch_heldAt t s job.batch
  rw [next_of_jobs_eq_cons t hj, next_of_jobs_eq_cons 0 hw]
  constructor
  · exact ⟨(closed_perform t job none).trans h.isOpen.1, (closed_perform 0 _ none).trans h.isOpen.2⟩
  · rw [queue_perform, queue_perform]
    exact h.queue
  · refine ⟨(s.dispatch 0 job.batch none).2.2, ?_, ?_⟩
    · simp [perform, hls]
    · rw [slots_perform (c := { c with jobs := rest }) t job none hcs, hd]
  · rw [jobs_perform, waiting, jobs_perform]
  · have hl := handed_perform (c := { l with jobs := later }) 0 ⟨0, job.batch⟩ none hs
    rw [handed_perform (c := { c with jobs := rest }) t job none hcs, hd]
    exact (congrArg (· ++ [(job.batch, (s.dispatch 0 job.batch none).1)]) h.handed).trans hl.symm

theorem work (h : Mirrors i t c l) : Mirrors i t (c.work t) (l.work 0) := by
  generalize hj : c.jobs = jobs
  induction jobs generalizing c l with
  | nil =>
    have hl : l.jobs = [] := by rw [h.jobs, waiting, hj, List.filterMap_nil, List.map_nil]
    rwa [work_of_jobs_eq_nil t hj, work_of_jobs_eq_nil 0 hl]
  | cons job rest ih =>
    have hr : (c.next t).jobs = rest := by rw [next_of_jobs_eq_cons t hj, jobs_perform]
    rw [work_of_jobs_eq_cons t hj]
    by_cases hi : job.slot = i
    · obtain ⟨hne, hn⟩ := h.next_of_eq hj hi
      obtain ⟨first, later, hl⟩ := List.exists_cons_of_ne_nil hne
      rw [work_of_jobs_eq_cons 0 hl]
      exact ih hn hr
    · exact ih (h.next_of_ne hj hi t) hr

theorem setFailing (h : Mirrors i t c l) (failing : Bool) :
    Mirrors i t (c.modify i (·.setFailing failing)) (l.modify 0 (·.setFailing failing)) := by
  obtain ⟨s, hls, hcs⟩ := h.slot
  refine ⟨h.isOpen, h.queue, ?_, h.jobs, h.handed⟩
  refine ⟨{ s with publisher := s.publisher.setFailing failing }, ?_, ?_⟩
  · simp [modify, hls]
  · simp [modify, hcs, Slot.heldAt]

theorem setFailing_of_ne (h : Mirrors i t c l) {k : Nat} (hk : k ≠ i) (failing : Bool) :
    Mirrors i t (c.modify k (·.setFailing failing)) l := by
  obtain ⟨s, hls, hcs⟩ := h.slot
  refine ⟨h.isOpen, h.queue, ⟨s, hls, ?_⟩, h.jobs, h.handed⟩
  simp [modify, hk, hcs]

/-- What concerns publisher `i` is done to the only publisher as well, and nothing else is. -/
theorem act (h : Mirrors i t c l) {a : Action} (ha : a.StandsAt t) :
    Mirrors i t (c.act a) ((a.seenFrom? i c).elim l l.act) := by
  obtain ⟨hc, hl⟩ := h.isOpen
  cases a with
  | send s =>
    simp only [Action.seenFrom?, Option.elim_some, Client.act, send_of_open hc, send_of_open hl]
    exact h.send #[s]
  | sendAll ss =>
    simp only [Action.seenFrom?, Option.elim_some, Client.act, sendAll_of_open hc,
      sendAll_of_open hl]
    exact h.send ss.toArray
  | flush now =>
    obtain rfl : now = t := ha
    exact h.submit.work
  | submit => exact h.submit
  | next now =>
    obtain rfl : now = t := ha
    cases hj : c.jobs with
    | nil =>
      simp only [Action.seenFrom?, Client.act, hj, next_of_jobs_eq_nil now hj]
      exact h
    | cons job rest =>
      by_cases hi : job.slot = i
      · simpa [Action.seenFrom?, Client.act, hj, hi] using (h.next_of_eq hj hi).2
      · simpa [Action.seenFrom?, Client.act, hj, hi] using h.next_of_ne hj hi now
  | setFailing k failing =>
    by_cases hk : k = i
    · subst hk
      simpa [Action.seenFrom?, Client.act] using h.setFailing failing
    · simpa [Action.seenFrom?, Client.act, hk] using h.setFailing_of_ne hk failing

/-- Publisher `i` sees its run as if it were alone. -/
theorem seen_eq (h : Mirrors i t c l) {actions : List Action} (ha : ∀ a ∈ actions, a.StandsAt t) :
    seen i c actions = seenAlone l ((seen i c actions).map (·.1)) := by
  induction actions generalizing c l with
  | nil => rfl
  | cons a actions ih =>
    have hm := h.act (ha a List.mem_cons_self)
    have hr := fun b hb => ha b (List.mem_cons_of_mem a hb)
    rw [seen]
    cases hs : a.seenFrom? i c with
    | none =>
      rw [hs] at hm
      exact ih hm hr
    | some b =>
      rw [hs] at hm
      have hv : (c.act a).view? i = (l.act b).view? 0 := hm.view?_eq
      have ht := ih hm hr
      simp only [List.map_cons, seenAlone, hv]
      exact congrArg _ ht

end Mirrors

theorem mirrors_fresh [Regex.Engine] (config : AgentConfig) {ps : List Publisher} {i : Nat}
    {p : Publisher} (h : ps[i]? = some p) (t : Instant) :
    Mirrors i t { slots := ps.map (Slot.fresh config) } { slots := [Slot.fresh config p] } where
  isOpen := ⟨rfl, rfl⟩
  queue := rfl
  slot := by
    refine ⟨_, rfl, ?_⟩
    rw [List.getElem?_map, h]
    rfl
  jobs := rfl
  handed := rfl

/-- A publisher sees the same of two runs at standing clocks if the same things that concern it are
done in both, wherever it stands among whichever other publishers. -/
theorem seen_eq_of_alike [Regex.Engine] {config : AgentConfig}
    {publishers publishers' : List Publisher} {i i' : Nat} {p : Publisher}
    (hc : config.validate = .ok ())
    (hp : ∀ q ∈ publishers, q.config.validate = .ok ())
    (hp' : ∀ q ∈ publishers', q.config.validate = .ok ())
    (hi : publishers[i]? = some p) (hi' : publishers'[i']? = some p) :
    ∃ client client', (ofPublishers config publishers).2 = .ok client ∧
      (ofPublishers config publishers').2 = .ok client' ∧
      ∀ (t t' : Instant) (actions actions' : List Action),
        (∀ a ∈ actions, a.StandsAt t) → (∀ a ∈ actions', a.StandsAt t') →
        (seen i client actions).map (·.1) = (seen i' client' actions').map (·.1) →
        seen i client actions = seen i' client' actions' := by
  refine ⟨_, _, ofPublishers_of_valid hc hp, ofPublishers_of_valid hc hp', ?_⟩
  intro t t' actions actions' ha ha' hs
  have h := (mirrors_fresh config hi t).seen_eq ha
  have h' := (mirrors_fresh config hi' t').seen_eq ha'
  rw [h, h', hs]

attribute [local instance] Regex.Engine.estimating

private def watched : Publisher :=
  .memory { config := { PublisherConfig.named "copy" .memory with
    resetCounters := true, breaker := { failureThreshold := 1 } } }

private def requests (total : Float) : Action :=
  .send { labels := .ofName "requests", kind := .count, value := total, timestamp := 0, tags := {} }

/-- A run beside a publisher of the same name, whose batches come after its own. -/
private def besideCopy : List Action :=
  [requests 5, .flush 7, requests 8, .submit, .setFailing 0 true, requests 9, .flush 7,
    .setFailing 0 false, requests 9, .flush 7]

/-- The same run beside one that fails, whose batches come first. -/
private def besideFailing : List Action :=
  [.setFailing 0 true, requests 5, .flush 0, requests 8, .submit, .setFailing 1 true,
    requests 9, .flush 0, .setFailing 0 false, .setFailing 1 false, requests 9, .flush 0]

theorem seen_eq_beside_copy_and_failing :
    (∀ q ∈ [watched, .memory (.named "copy")], q.config.validate = .ok ()) ∧
      (∀ q ∈ [.memory (.named "other"), watched], q.config.validate = .ok ()) ∧
      ∃ client client', (ofPublishers {} [watched, .memory (.named "copy")]).2 = .ok client ∧
        (ofPublishers {} [.memory (.named "other"), watched]).2 = .ok client' ∧
        seen 0 client besideCopy = seen 1 client' besideFailing := by
  have hc : AgentConfig.validate {} = .ok () := rfl
  have hp : ∀ q ∈ [watched, .memory (.named "copy")], q.config.validate = .ok () := by
    simp only [List.mem_cons, List.not_mem_nil, or_false, forall_eq_or_imp, forall_eq]
    decide
  have hp' : ∀ q ∈ [.memory (.named "other"), watched], q.config.validate = .ok () := by
    simp only [List.mem_cons, List.not_mem_nil, or_false, forall_eq_or_imp, forall_eq]
    decide
  have hi : [watched, .memory (.named "copy")][0]? = some watched := rfl
  have hi' : [.memory (.named "other"), watched][1]? = some watched := rfl
  obtain ⟨client, client', hm, hm', h⟩ := seen_eq_of_alike hc hp hp' hi hi'
  refine ⟨hp, hp', client, client', hm, hm', h 7 0 besideCopy besideFailing ?_ ?_ ?_⟩
  · simp [besideCopy, requests, Action.StandsAt]
  · simp [besideFailing, requests, Action.StandsAt]
  · simp [besideCopy, besideFailing, requests, seen, Action.seenFrom?]

end Client

end Telemetry
