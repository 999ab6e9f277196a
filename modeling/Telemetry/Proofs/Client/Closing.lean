import Telemetry.Proofs.Client.Delivery
import Telemetry.Proofs.Client.Session
/-!
# Shutting down a client

A shutdown may begin at any time, also while the worker is in the midst of a job. Main statement: in
every session the jobs that are begun are the first of those that were queued, nothing is published
again after the call that a shutdown finds in progress, and each publisher is let go of once, after
which nothing is published.
-/
namespace Telemetry

namespace Publisher

theorem shutdown_setFailing (failing : Bool) (p : Publisher) :
    (p.setFailing failing).shutdown = p.shutdown.setFailing failing := by
  cases p <;> rfl

theorem shutdown_shutdown (p : Publisher) : p.shutdown.shutdown = p.shutdown := by
  cases p <;> rfl

end Publisher

namespace Client

/-- The jobs that were queued, in order. -/
def queued (c : Client) : List Job :=
  c.journal.toList.filterMap fun
    | .queued job => some job
    | _ => none

/-- The jobs that were brought to their end, in order. -/
def dispatched (c : Client) : List Job :=
  c.journal.toList.filterMap fun
    | .dispatched job _ _ => some job
    | _ => none

@[simp] theorem queued_release (c : Client) (i : Nat) : (c.release i).queued = c.queued := by
  simp [release, queued]

@[simp] theorem dispatched_release (c : Client) (i : Nat) :
    (c.release i).dispatched = c.dispatched := by
  simp [release, dispatched]

namespace Session

variable {s : Session}

/-- The jobs that the worker has begun, in order. -/
def begun (s : Session) : List Job :=
  s.client.dispatched ++ (s.task.map (·.job)).toList

/-- Whatever happens until the job in progress comes to its end, it makes the call whose number is
`k`, unless it ends before that, and none after it. -/
def EndsAt (s : Session) (job : Job) (now : Instant) (k : Nat) : Prop :=
  ∀ moves : List Move, (∀ m ∈ moves, m ≠ .finish) → ∃ slot report events,
    (s.run moves).client.slots[job.slot]? = some slot ∧
    (s.run moves).finish.client.journal =
      (s.run moves).client.journal.push (.dispatched job report events) ∧
    report.calls = min (slot.dispatch now job.batch none).1.calls (k + 1)

/-- What is true of a session at any time. -/
structure Sound (s : Session) : Prop where
  placed : ∀ job ∈ (s.task.map (·.job)).toList ++ s.client.jobs, job.slot < s.client.slots.length
  serving : s.client.closed = false ↔ s.stage = .serving
  first : s.begun <+: s.client.queued
  jobs : ¬ s.stage.Stopped → s.client.queued = s.begun ++ s.client.jobs
  ended : ∀ n, s.stage = .releasing n →
    s.task = none ∧ s.client.jobs = [] ∧ n ≤ s.client.slots.length
  released : ∃ earlier, s.client.journal.toList =
      earlier ++ (List.range s.stage.released).map Entry.released ∧ ∀ i, .released i ∉ earlier
  gone : ∀ i < s.stage.released, ∀ slot, s.client.slots[i]? = some slot →
    slot.publisher.shutdown = slot.publisher

namespace Sound

theorem closed (h : s.Sound) (hs : s.stage ≠ .serving) : s.client.closed = true := by
  rw [← Bool.not_eq_false]
  exact fun hc => hs (h.serving.1 hc)

theorem fresh (slots : List Slot) : Sound { client := { slots } } where
  placed := by simp
  serving := by simp
  first := by simp [begun, dispatched]
  jobs _ := rfl
  ended := by simp
  released := ⟨[], rfl, by simp⟩
  gone := by simp [Stage.released]

/-- Jobs may be queued for publishers of a client that is not closed. -/
theorem queue (h : s.Sound) (ho : s.client.closed = false) {c : Client} (new : List Job)
    (hn : ∀ job ∈ new, job.slot < s.client.slots.length) (hj : c.jobs = s.client.jobs ++ new)
    (hg : c.journal.toList = s.client.journal.toList ++ new.map Entry.queued)
    (hl : c.slots.length = s.client.slots.length) (hc : c.closed = false) :
    Sound { s with client := c } := by
  have hs : s.stage = .serving := h.serving.1 ho
  have hq : c.queued = s.client.queued ++ new := by
    rw [queued, hg, List.filterMap_append, List.filterMap_map]
    exact congrArg (_ ++ ·) List.filterMap_some
  have hb : Session.begun { s with client := c } = s.begun := by
    have hd : c.dispatched = s.client.dispatched := by
      rw [dispatched, hg, List.filterMap_append, List.filterMap_map]
      exact (congrArg (_ ++ ·) (List.filterMap_eq_nil_iff.2 fun _ _ => rfl)).trans
        (List.append_nil _)
    rw [begun, hd, begun]
  constructor
  · intro job hm
    simp only [hj, hl, ← List.append_assoc] at hm ⊢
    rcases List.mem_append.1 hm with hm | hm
    · exact h.placed job hm
    · exact hn job hm
  · simp [hc, hs]
  · rw [hb, hq]
    exact h.first.trans (List.prefix_append _ _)
  · intro hns
    rw [hb, hq, hj, h.jobs hns, List.append_assoc]
  · simp [hs]
  · obtain ⟨earlier, hjournal, hr⟩ := h.released
    refine ⟨s.client.journal.toList ++ new.map Entry.queued, by simp [hg, hs, Stage.released], ?_⟩
    intro i
    have hi := hr i
    simp [hjournal, hs, Stage.released, hi]
  · simp [hs, Stage.released]

theorem setFailing (h : s.Sound) (k : Nat) (failing : Bool) :
    Sound { s with client := s.client.modify k (·.setFailing failing) } where
  placed := by simpa [Client.modify] using h.placed
  serving := h.serving
  first := h.first
  jobs := h.jobs
  ended := by simpa [Client.modify] using h.ended
  released := h.released
  gone := by
    intro i hi slot hs
    obtain ⟨old, ho, rfl⟩ : ∃ old, s.client.slots[i]? = some old ∧
        (if k = i then { old with publisher := old.publisher.setFailing failing } else old) =
          slot := by
      simpa [Client.modify, List.getElem?_modify] using hs
    have hg := h.gone i hi old ho
    split
    · rw [Publisher.shutdown_setFailing, hg]
    · exact hg

theorem start (h : s.Sound) (now : Instant) : (s.start now).Sound := by
  rw [Session.start]
  split
  · rename_i job rest ht hj
    have hp := h.placed
    rw [ht, hj] at hp
    by_cases hs : s.stage.Stopped
    · simp only [if_pos hs]
      constructor
      · intro later hm
        rw [ht] at hm
        exact hp later (List.mem_cons_of_mem job hm)
      · exact h.serving
      · exact h.first
      · exact fun hn => absurd hs hn
      · intro n hr
        have he := (h.ended n hr).2.1
        simp [hj] at he
      · exact h.released
      · exact h.gone
    · simp only [if_neg hs]
      have hq : s.client.queued = s.client.dispatched ++ [job] ++ rest := by
        rw [h.jobs hs, begun, ht, hj]
        simp
      constructor
      · exact hp
      · exact h.serving
      · exact ⟨rest, hq.symm⟩
      · exact fun _ => hq
      · intro n hr
        have hn : s.stage = .releasing n := hr
        exact absurd (by rw [hn]; trivial) hs
      · exact h.released
      · exact h.gone
  · exact h

theorem slot (h : s.Sound) {t : Task} (ht : s.task = some t) :
    ∃ slot, s.client.slots[t.job.slot]? = some slot := by
  have hl := h.placed t.job (by simp [ht])
  exact ⟨_, List.getElem?_eq_getElem hl⟩

/-- While a job is in progress no publisher is let go of. -/
theorem released_eq_zero (h : s.Sound) {t : Task} (ht : s.task = some t) :
    s.stage.released = 0 := by
  cases hs : s.stage with
  | serving | halting n | stopped => rfl
  | releasing n =>
    have hn := (h.ended n hs).1
    rw [ht] at hn
    cases hn

/-- A job that is brought to its end was begun before. -/
theorem begun_finish (h : s.Sound) :
    s.finish.begun = s.begun ∧ s.finish.client.queued = s.client.queued := by
  cases ht : s.task with
  | none => simp [Session.finish, ht]
  | some t =>
    obtain ⟨slot, hs⟩ := h.slot ht
    have hp := perform_of_slot t.now t.job t.interrupt hs
    constructor
    · simp [Session.finish, ht, hp, begun, dispatched]
    · simp [Session.finish, ht, hp, queued]

theorem finish (h : s.Sound) : s.finish.Sound := by
  obtain ⟨hb, hq⟩ := h.begun_finish
  cases ht : s.task with
  | none => simpa [Session.finish, ht] using h
  | some t =>
    obtain ⟨slot, hs⟩ := h.slot ht
    have hp := perform_of_slot t.now t.job t.interrupt hs
    have hf : s.finish = { s with
        client := (s.client.perform t.now t.job t.interrupt).2, task := none } := by
      simp [Session.finish, ht]
    generalize (s.client.perform t.now t.job t.interrupt).2 = c at hp hf
    rw [hf] at hb hq ⊢
    constructor
    · intro job hm
      have hj := h.placed job (List.mem_append_right _ (by simpa [hp] using hm))
      simpa [hp] using hj
    · simpa [hp] using h.serving
    · rw [hb, hq]
      exact h.first
    · intro hn
      rw [hb, hq, hp]
      exact h.jobs hn
    · intro n hn
      have he := (h.ended n hn).1
      rw [ht] at he
      cases he
    · obtain ⟨earlier, hj, hr⟩ := h.released
      have hz := h.released_eq_zero ht
      simp only [hz, List.range_zero, List.map_nil, List.append_nil] at hj
      refine ⟨c.journal.toList, by simp [hz], ?_⟩
      intro i
      simp [hp, hj, hr i]
    · simp [h.released_eq_zero ht]

theorem close (h : s.Sound) : s.close.Sound := by
  rw [Session.close]
  split
  · exact h
  · rename_i hc
    have hs : s.stage = .serving := h.serving.1 (by simpa using hc)
    constructor
    · exact h.placed
    · simp
    · exact h.first
    · exact fun _ => h.jobs (by simp [hs, Stage.Stopped])
    · simp
    · simpa [hs, Stage.released] using h.released
    · simp [Stage.released]

theorem halt (h : s.Sound) {n : Nat} (hs : s.stage = .halting n) (call : Nat) :
    Sound { s with task := s.task.map (·.halt n call), stage := .halting (n + 1) } := by
  have hj : (s.task.map (·.halt n call)).map (·.job) = s.task.map (·.job) := by
    rw [Option.map_map]
    congr 1
    funext t
    exact t.job_halt n call
  have hb : Session.begun { s with task := s.task.map (·.halt n call), stage := .halting (n + 1) } =
      s.begun := by rw [begun, begun, hj]
  have hc := h.closed (by simp [hs])
  constructor
  · simpa only [hj] using h.placed
  · simp [hc]
  · rw [hb]
    exact h.first
  · intro _
    rw [hb]
    exact h.jobs (by simp [hs, Stage.Stopped])
  · simp
  · simpa [hs, Stage.released] using h.released
  · simp [Stage.released]

theorem stop (h : s.Sound) {n : Nat} (hs : s.stage = .halting n) :
    Sound { s with stage := .stopped } where
  placed := h.placed
  serving := by simp [h.closed (by simp [hs])]
  first := h.first
  jobs hn := absurd trivial hn
  ended := by simp
  released := by simpa [hs, Stage.released] using h.released
  gone := by simp [Stage.released]

theorem join (h : s.Sound) (hs : s.stage = .stopped) (ht : s.task = none)
    (hj : s.client.jobs = []) : Sound { s with stage := .releasing 0 } where
  placed := h.placed
  serving := by simp [h.closed (by simp [hs])]
  first := h.first
  jobs hn := absurd trivial hn
  ended := by
    rintro n ⟨⟩
    exact ⟨ht, hj, Nat.zero_le _⟩
  released := by simpa [hs, Stage.released] using h.released
  gone := by simp [Stage.released]

theorem release (h : s.Sound) {n : Nat} (hs : s.stage = .releasing n)
    (hn : n < s.client.slots.length) :
    Sound { s with client := s.client.release n, stage := .releasing (n + 1) } := by
  obtain ⟨ht, hj, -⟩ := h.ended n hs
  have hl : (s.client.release n).slots.length = s.client.slots.length := by simp [Client.release]
  have hb : Session.begun { s with
      client := s.client.release n, stage := .releasing (n + 1) } = s.begun := by
    simp [begun]
  constructor
  · simp only [hl]
    exact h.placed
  · simp [Client.release, h.closed (by simp [hs])]
  · rw [hb, queued_release]
    exact h.first
  · exact fun hn => absurd trivial hn
  · rintro m ⟨⟩
    exact ⟨ht, hj, hl.symm ▸ hn⟩
  · obtain ⟨earlier, hg, hr⟩ := h.released
    refine ⟨earlier, ?_, hr⟩
    simp [Client.release, hg, hs, Stage.released, List.range_succ]
  · intro i hi slot hslot
    obtain ⟨old, ho, rfl⟩ : ∃ old, s.client.slots[i]? = some old ∧
        (if n = i then old.shutdown else old) = slot := by
      simpa [Client.release, List.getElem?_modify] using hslot
    split
    · exact Publisher.shutdown_shutdown old.publisher
    · rename_i hne
      have hlt : i < n + 1 := hi
      exact h.gone i (by rw [hs]; exact (by omega : i < n)) old ho

theorem proceed (h : s.Sound) (call : Nat) : (s.proceed call).Sound := by
  rw [Session.proceed]
  cases hs : s.stage with
  | serving => exact h
  | halting n =>
    simp only
    split
    · exact h.halt hs call
    · exact h.stop hs
  | stopped =>
    simp only
    split
    · rename_i he
      simp only [Bool.and_eq_true, Option.isNone_iff_eq_none, List.isEmpty_iff] at he
      exact h.join hs he.1 he.2
    · exact h
  | releasing n =>
    simp only
    split
    · rename_i hn
      exact h.release hs hn
    · exact h

/-- A session stays sound whatever happens. -/
theorem act (h : s.Sound) (m : Move) : (s.act m).Sound := by
  cases m with
  | setFailing i failing => exact h.setFailing i failing
  | shutdown => exact h.close
  | start now => exact h.start now
  | finish => exact h.finish
  | proceed call => exact h.proceed call
  | send x =>
    cases hc : s.client.closed with
    | true => simpa only [Session.act, send_of_closed hc] using h
    | false =>
      rw [Session.act, send_of_open hc]
      exact h.queue hc [] (by simp) (by simp) (by simp) rfl hc
  | sendAll xs =>
    cases hc : s.client.closed with
    | true => simpa only [Session.act, sendAll_of_closed hc] using h
    | false =>
      rw [Session.act, sendAll_of_open hc]
      exact h.queue hc [] (by simp) (by simp) (by simp) rfl hc
  | submit =>
    cases hc : s.client.closed with
    | true => simpa only [Session.act, submit_of_closed hc] using h
    | false =>
      obtain ⟨new, hn, hj, hg, hl⟩ := submit_queues s.client
      exact h.queue hc new hn hj hg hl (closed_submit hc)

theorem run (h : s.Sound) (moves : List Move) : (s.run moves).Sound := by
  induction moves generalizing s with
  | nil => exact h
  | cons m moves ih => exact ih (h.act m)

end Sound

section Closed

variable (h : s.client.closed = true)
include h

/-- What is done with a client that is closed has no effect. -/
theorem act_of_closed : (∀ x, s.act (.send x) = s) ∧ (∀ xs, s.act (.sendAll xs) = s) ∧
    s.act .submit = s ∧ s.act .shutdown = s := by
  refine ⟨fun x => ?_, fun xs => ?_, ?_, ?_⟩
  · rw [act, send_of_closed h]
  · rw [act, sendAll_of_closed h]
  · rw [act, submit_of_closed h]
  · rw [act, close, if_pos h]

theorem closed_act (m : Move) :
    (s.act m).client.closed = true ∧ (s.act m).client.queue = s.client.queue := by
  obtain ⟨hsend, hsendAll, hsubmit, hshutdown⟩ := act_of_closed h
  cases m with
  | send x => simp [hsend, h]
  | sendAll xs => simp [hsendAll, h]
  | submit => simp [hsubmit, h]
  | shutdown => simp [hshutdown, h]
  | setFailing i failing => exact ⟨h, rfl⟩
  | start now =>
    rw [act, start]
    split
    · split <;> exact ⟨h, rfl⟩
    · exact ⟨h, rfl⟩
  | finish =>
    rw [act, finish]
    split
    · exact ⟨h, rfl⟩
    · simp [h]
  | proceed call =>
    rw [act, proceed]
    split
    · exact ⟨h, rfl⟩
    all_goals split <;> exact ⟨h, rfl⟩

theorem queue_run (moves : List Move) : (s.run moves).client.queue = s.client.queue := by
  induction moves generalizing s with
  | nil => rfl
  | cons m moves ih =>
    obtain ⟨hc, hq⟩ := closed_act h m
    exact (ih hc).trans hq

end Closed

namespace Sound

/-- Once the worker is told to stop, no job is begun and none is queued. -/
theorem stopped_act (h : s.Sound) (hs : s.stage.Stopped) (m : Move) :
    (s.act m).stage.Stopped ∧ (s.act m).begun = s.begun ∧
      (s.act m).client.queued = s.client.queued := by
  have hc : s.client.closed = true := h.closed hs.ne_serving
  obtain ⟨hsend, hsendAll, hsubmit, hshutdown⟩ := act_of_closed hc
  cases m with
  | send x => simp [hsend, hs]
  | sendAll xs => simp [hsendAll, hs]
  | submit => simp [hsubmit, hs]
  | shutdown => simp [hshutdown, hs]
  | setFailing i failing => exact ⟨hs, rfl, rfl⟩
  | start now =>
    rw [Session.act, Session.start]
    split
    · rw [if_pos hs]
      exact ⟨hs, rfl, rfl⟩
    · exact ⟨hs, rfl, rfl⟩
  | finish =>
    obtain ⟨hb, hq⟩ := h.begun_finish
    refine ⟨?_, hb, hq⟩
    rw [Session.act, Session.finish]
    split <;> exact hs
  | proceed call =>
    rw [Session.act, Session.proceed]
    cases hg : s.stage with
    | serving | halting n =>
      rw [hg] at hs
      exact hs.elim
    | stopped =>
      simp only
      split
      · exact ⟨trivial, rfl, rfl⟩
      · exact ⟨hs, rfl, rfl⟩
    | releasing n =>
      simp only
      split
      · exact ⟨trivial, by simp [begun], queued_release s.client n⟩
      · exact ⟨hs, rfl, rfl⟩

theorem stopped_run (h : s.Sound) (hs : s.stage.Stopped) (moves : List Move) :
    (s.run moves).begun = s.begun ∧ (s.run moves).client.queued = s.client.queued := by
  induction moves generalizing s with
  | nil => exact ⟨rfl, rfl⟩
  | cons m moves ih =>
    obtain ⟨hm, hb, hq⟩ := h.stopped_act hs m
    obtain ⟨hb', hq'⟩ := ih (h.act m) hm
    exact ⟨hb'.trans hb, hq'.trans hq⟩

/-- A task that is interrupted stays as it is until it is brought to its end. -/
theorem task_act (h : s.Sound) {t : Task} (ht : s.task = some t)
    (hh : s.stage.Halted t.job.slot) {m : Move} (hm : m ≠ .finish) :
    (s.act m).task = some t ∧ (s.act m).stage.Halted t.job.slot := by
  cases m with
  | send x | sendAll xs | submit | setFailing i failing => exact ⟨ht, hh⟩
  | finish => exact absurd rfl hm
  | start now => simpa [Session.act, Session.start, ht] using hh
  | shutdown =>
    have hc : s.client.closed = true := h.closed hh.ne_serving
    simpa [Session.act, Session.close, hc, ht] using hh
  | proceed call =>
    rw [Session.act, Session.proceed]
    cases hs : s.stage with
    | serving =>
      rw [hs] at hh
      exact hh.elim
    | halting n =>
      have hn : t.job.slot < n := by rwa [hs] at hh
      simp only
      split
      · have hne : t.job.slot ≠ n := by omega
        exact ⟨by simp [ht, Task.halt, hne], Nat.lt_succ_of_lt hn⟩
      · exact ⟨ht, trivial⟩
    | stopped => simpa [ht, hs] using hh
    | releasing n =>
      have hn := (h.ended n hs).1
      rw [ht] at hn
      cases hn

/-- The task is brought to its end by the call in which its dispatcher was shut down. -/
theorem interrupted (h : s.Sound) {t : Task} {k : Nat} (ht : s.task = some t)
    (hk : t.interrupt = some k) (hh : s.stage.Halted t.job.slot) : s.EndsAt t.job t.now k := by
  intro moves hm
  induction moves generalizing s with
  | nil =>
    obtain ⟨slot, hs⟩ := h.slot ht
    have hp := perform_of_slot t.now t.job t.interrupt hs
    rw [hk] at hp
    refine ⟨slot, (slot.dispatch t.now t.job.batch (some k)).1,
      (slot.dispatch t.now t.job.batch (some k)).2.1, hs, ?_, ?_⟩
    · simp [Session.run, Session.finish, ht, hp, hk]
    · exact slot.calls_dispatch_interrupted t.job.batch t.now k
  | cons m moves ih =>
    obtain ⟨ht', hh'⟩ := h.task_act ht hh (hm m List.mem_cons_self)
    exact ih (h.act m) ht' hh' fun m' hm' => hm m' (List.mem_cons_of_mem m hm')

theorem interrupted_in_call (h : s.Sound) {t : Task} (ht : s.task = some t)
    (hs : s.stage = .halting t.job.slot) (k : Nat) :
    (s.act (.proceed k)).EndsAt t.job t.now k := by
  have hl := h.placed t.job (by simp [ht])
  have ha : s.act (.proceed k) = { s with
      task := some { t with interrupt := some k }, stage := .halting (t.job.slot + 1) } := by
    simp [Session.act, Session.proceed, hs, hl, ht, Task.halt]
  have hi := h.act (.proceed k)
  rw [ha] at hi ⊢
  exact hi.interrupted (t := { t with interrupt := some k }) rfl rfl (Nat.lt_succ_self _)

theorem interrupted_before (h : s.Sound) {job : Job} {rest : List Job} (ht : s.task = none)
    (hj : s.client.jobs = job :: rest) (hh : s.stage.Halted job.slot) (hs : ¬ s.stage.Stopped)
    (now : Instant) : (s.act (.start now)).EndsAt job now 0 := by
  have ha : s.act (.start now) = { s with
      client := { s.client with jobs := rest }, task := some ⟨job, now, some 0⟩ } := by
    simp [Session.act, Session.start, ht, hj, hh, hs]
  have hi := h.act (.start now)
  rw [ha] at hi ⊢
  exact hi.interrupted rfl rfl hh

/-- A shutdown that has begun comes to its end, whatever the worker is in. -/
theorem ends (h : s.Sound) (hc : s.client.closed = true) : ∃ c, s.Settles (finished c) := by
  have stopped (c : Client) (task : Option Task) :
      ∃ d, (Session.mk c task .stopped).Settles (finished d) := by
    cases task with
    | none => exact ⟨_, stopped_settles⟩
    | some t => exact ⟨_, Settles.step (m := .finish) trivial stopped_settles⟩
  obtain ⟨c, task, stage⟩ := s
  cases stage with
  | serving =>
    have ho : c.closed = false := h.serving.2 rfl
    exact absurd (ho.symm.trans hc) Bool.false_ne_true
  | halting n =>
    obtain ⟨task', hs, -, -⟩ := halting_settles (c := c) task n 0
    obtain ⟨d, hd⟩ := stopped c task'
    exact ⟨d, hs.trans hd⟩
  | stopped => exact stopped c task
  | releasing n =>
    obtain ⟨ht, hj, hn⟩ := h.ended n rfl
    obtain rfl : task = none := ht
    exact ⟨_, release_settles hn⟩

end Sound

theorem length_act (s : Session) (m : Move) :
    (s.act m).client.slots.length = s.client.slots.length := by
  cases m with
  | send x =>
    rw [act, send]
    split <;> rfl
  | sendAll xs =>
    cases hc : s.client.closed with
    | true => rw [(act_of_closed hc).2.1]
    | false =>
      rw [act, sendAll_of_open hc]
  | submit =>
    obtain ⟨new, -, -, -, hl⟩ := submit_queues s.client
    exact hl
  | setFailing i failing => simp [act, modify]
  | shutdown =>
    rw [act, close]
    split <;> rfl
  | start now =>
    rw [act, start]
    split
    · split <;> rfl
    · rfl
  | finish =>
    rw [act, finish]
    split
    · rfl
    · exact length_perform _ _ _
  | proceed call =>
    rw [act, proceed]
    split
    · rfl
    all_goals split <;> simp [release]

theorem length_run (s : Session) (moves : List Move) :
    (s.run moves).client.slots.length = s.client.slots.length := by
  induction moves generalizing s with
  | nil => rfl
  | cons m moves ih => exact (ih (s.act m)).trans (length_act s m)

/-- A client of `n` publishers that may be shut down at any time. -/
structure Safe (n : Nat) (s : Session) : Prop where
  publishers : s.client.slots.length = n
  /-- The jobs that are begun are the first of those queued, and once the worker is told to stop no
  other is begun. -/
  first : s.begun <+: s.client.queued
  jobs : ¬ s.stage.Stopped → s.client.queued = s.begun ++ s.client.jobs
  last : s.stage.Stopped → ∀ moves,
    (s.run moves).begun = s.begun ∧ (s.run moves).client.queued = s.client.queued
  /-- The call in which the dispatcher of a job is shut down is its last one, and a job that is
  begun later makes one call at most. -/
  interrupted : ∀ t ∈ s.task, ∀ k, s.stage = .halting t.job.slot →
    (s.act (.proceed k)).EndsAt t.job t.now k
  late : ∀ job rest now, s.task = none → s.client.jobs = job :: rest → s.stage.Halted job.slot →
    ¬ s.stage.Stopped → (s.act (.start now)).EndsAt job now 0
  /-- Publishers are let go of one after the other, each once, when no job is in progress or will be
  begun. -/
  released : ∃ earlier, s.client.journal.toList =
    earlier ++ (List.range s.stage.released).map Entry.released ∧ ∀ i, .released i ∉ earlier
  gone : ∀ i < s.stage.released, ∀ slot, s.client.slots[i]? = some slot →
    slot.publisher.shutdown = slot.publisher
  ended : ∀ k, s.stage = .releasing k → s.task = none ∧ s.client.jobs = [] ∧ k ≤ n
  /-- From the beginning of a shutdown on nothing is taken in or flushed and no other shutdown
  begins, and what is buffered stays as it is. -/
  closed : s.client.closed = true → (∀ x, s.act (.send x) = s) ∧ (∀ xs, s.act (.sendAll xs) = s) ∧
    s.act .submit = s ∧ s.act .shutdown = s
  pending : s.client.closed = true → ∀ moves, (s.run moves).client.pending = s.client.pending
  /-- A shutdown that has begun comes to its end by what the worker and it do, and afterwards
  nothing happens but that publishers are made to fail. -/
  ends : s.client.closed = true → ∃ c, s.Settles (finished c)
  settled : ∀ c, s = finished c → ∀ m, (∀ i failing, m ≠ .setFailing i failing) → s.act m = s
  /-- What a client does in one go while its worker is idle is done in such steps. -/
  whole : s.task = none → s.stage = .serving → ∀ now,
    (s.act .submit).Settles { s with client := (s.client.flush now).1 } ∧
    (s.act .shutdown).Settles (finished s.client.shutdown.1) ∧
    ∀ i k, ∃ s', (s.act .submit).Settles s' ∧
      (s'.act .shutdown).Settles (finished (s.client.flushInterrupted now i k).1)

theorem Sound.settled (h : s.Sound) {c : Client} (hs : s = finished c) {m : Move}
    (hm : ∀ i failing, m ≠ .setFailing i failing) : s.act m = s := by
  obtain ⟨ht, hj, -⟩ := h.ended c.slots.length (by rw [hs]; rfl)
  obtain ⟨hsend, hsendAll, hsubmit, hshutdown⟩ :=
    act_of_closed (h.closed (by rw [hs]; simp [finished]))
  cases m with
  | send x => exact hsend x
  | sendAll xs => exact hsendAll xs
  | submit => exact hsubmit
  | shutdown => exact hshutdown
  | setFailing i failing => exact absurd rfl (hm i failing)
  | start now => simp [Session.act, Session.start, ht, hj]
  | finish => simp [Session.act, Session.finish, ht]
  | proceed call => simp [hs, Session.act, Session.proceed, finished]

theorem Sound.safe (h : s.Sound) : Safe s.client.slots.length s where
  publishers := rfl
  first := h.first
  jobs := h.jobs
  last := h.stopped_run
  interrupted _ ht k hs := h.interrupted_in_call ht hs k
  late _ _ now ht hj hh hs := h.interrupted_before ht hj hh hs now
  released := h.released
  gone := h.gone
  ended := h.ended
  closed := act_of_closed
  pending := by
    intro hc moves
    rw [pending, queue_run hc]
    rfl
  ends := h.ends
  settled _ hs _ := h.settled hs
  whole := by
    intro ht hs now
    have hc := h.serving.2 hs
    obtain ⟨c, task, stage⟩ := s
    obtain rfl : task = none := ht
    obtain rfl : stage = .serving := hs
    exact ⟨flush_settles now, shutdown_settles hc, flushInterrupted_settles now hc⟩

/-- However a client is used and whenever it is shut down, the jobs that are begun are the first of
those that were queued, a job that a shutdown finds in progress ends with the call that it is in,
and each publisher is let go of once, after its last call. -/
theorem shuts_down_safely [Regex.Engine] {config : AgentConfig} {publishers : List Publisher}
    (hc : config.validate = .ok ()) (hp : ∀ p ∈ publishers, p.config.validate = .ok ()) :
    ∃ client, (ofPublishers config publishers).2 = .ok client ∧
      ∀ moves, Safe publishers.length (run { client } moves) := by
  refine ⟨_, ofPublishers_of_valid hc hp, ?_⟩
  intro moves
  have h := ((Sound.fresh (publishers.map (Slot.fresh config))).run moves).safe
  rwa [length_run, List.length_map] at h

attribute [local instance] Regex.Engine.estimating

private def down : Publisher :=
  .memory { config := { PublisherConfig.named "down" .memory with batchSize := 1 }
            failing := true }

/-- A run in which the client is shut down in the second call for the first of two batches. -/
private def cutShort : List Move :=
  let x : Snapshot :=
    { labels := .ofName "requests", kind := .count, value := 5, timestamp := 0, tags := {} }
  [.sendAll [x, x], .submit, .start 0, .shutdown, .proceed 1, .proceed 0, .finish, .start 0,
    .proceed 0, .proceed 0]

theorem shuts_down_safely_in_second_call :
    AgentConfig.validate {} = .ok () ∧ (∀ p ∈ [down], p.config.validate = .ok ()) ∧
      ∃ client, (ofPublishers {} [down]).2 = .ok client ∧ Safe 1 (run { client } cutShort) ∧
        (run { client } cutShort).begun.length = 1 ∧
        (run { client } cutShort).client.queued.length = 2 ∧
        (run { client } cutShort).stage.released = 1 := by
  have hc : AgentConfig.validate {} = .ok () := rfl
  have hp : ∀ p ∈ [down], p.config.validate = .ok () := by
    simp only [List.mem_singleton, forall_eq]
    decide
  obtain ⟨client, hm, hs⟩ := shuts_down_safely hc hp
  obtain rfl := Except.ok.inj ((ofPublishers_of_valid hc hp).symm.trans hm)
  exact ⟨hc, hp, _, hm, hs cutShort, by decide +kernel⟩

end Session

end Client

end Telemetry
