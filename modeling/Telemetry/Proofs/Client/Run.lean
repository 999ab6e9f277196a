import Telemetry.Client
import Telemetry.Proofs.Client.Slot
/-!
# Runs of a client

What happens to a client between its making and its end, and what each action does to the batches of
one publisher: those that were handed to its dispatcher and those that wait for the worker.
-/
namespace Telemetry.Client

/-- Something done with a client that is not shut down. A flush may leave its batches to the worker,
which then does them one by one. -/
inductive Action where
  | send (s : Snapshot)
  | sendAll (ss : List Snapshot)
  | flush (now : Instant)
  | submit
  | next (now : Instant)
  | setFailing (i : Nat) (failing : Bool)

/-- The worker does the batch that waits longest. -/
def next (c : Client) (now : Instant) : Client :=
  match c.jobs with
  | [] => c
  | job :: rest => ({ c with jobs := rest }.perform now job none).2

def act (c : Client) : Action → Client
  | .send s => (c.send s).1
  | .sendAll ss => (BufferedClient.sendAll c ss).1
  | .flush now => (c.flush now).1
  | .submit => c.submit.1
  | .next now => c.next now
  | .setFailing i failing => c.modify i (·.setFailing failing)

def run (c : Client) (actions : List Action) : Client :=
  actions.foldl act c

/-- The batch and the report of an entry that is about a batch handed to publisher `i`. -/
def Entry.handed? (i : Nat) : Entry → Option (List Snapshot × Report)
  | dispatched job report _ => if job.slot = i then some (job.batch, report) else none
  | _ => none

/-- The batches handed to the dispatcher of publisher `i` and what became of them. -/
def handed (c : Client) (i : Nat) : List (List Snapshot × Report) :=
  c.journal.toList.filterMap (Entry.handed? i)

def Job.batchFor? (i : Nat) (job : Job) : Option (List Snapshot) :=
  if job.slot = i then some job.batch else none

/-- The batches for publisher `i` that the worker has not come to. -/
def waiting (c : Client) (i : Nat) : List (List Snapshot) :=
  c.jobs.filterMap (Job.batchFor? i)

variable {c : Client}

section Perform

variable (now : Instant) (job : Job) (interrupt : Option Nat)

@[simp] theorem jobs_perform : (c.perform now job interrupt).2.jobs = c.jobs := by
  rw [perform]
  split <;> rfl

@[simp] theorem queue_perform : (c.perform now job interrupt).2.queue = c.queue := by
  rw [perform]
  split <;> rfl

@[simp] theorem closed_perform : (c.perform now job interrupt).2.closed = c.closed := by
  rw [perform]
  split <;> rfl

theorem perform_of_jobs (jobs : List Job) :
    { (c.perform now job interrupt).2 with jobs } =
      ({ c with jobs }.perform now job interrupt).2 := by
  cases hs : c.slots[job.slot]? <;> simp only [perform, hs]

theorem perform_with (jobs : List Job) (closed : Bool) :
    { (c.perform now job interrupt).2 with jobs, closed } =
      ({ c with jobs, closed }.perform now job interrupt).2 := by
  cases hs : c.slots[job.slot]? <;> simp only [perform, hs]

theorem perform_of_slot {slot : Slot} (h : c.slots[job.slot]? = some slot) :
    (c.perform now job interrupt).2 =
      let dispatched := slot.dispatch now job.batch interrupt
      { c with
        slots := c.slots.set job.slot dispatched.2.2
        journal := c.journal.push (.dispatched job dispatched.1 dispatched.2.1) } := by
  simp only [perform, h]

theorem length_perform : (c.perform now job interrupt).2.slots.length = c.slots.length := by
  rw [perform]
  split
  · rfl
  · simp

theorem slots_perform_of_ne {i : Nat} (h : job.slot ≠ i) :
    (c.perform now job interrupt).2.slots[i]? = c.slots[i]? := by
  rw [perform]
  split
  · rfl
  · exact List.getElem?_set_ne h

theorem slots_perform {slot : Slot} (h : c.slots[job.slot]? = some slot) :
    (c.perform now job interrupt).2.slots[job.slot]? =
      some (slot.dispatch now job.batch interrupt).2.2 := by
  have hl : job.slot < c.slots.length := (List.getElem?_eq_some_iff.1 h).1
  simp only [perform, h]
  rw [List.getElem?_set_self hl]

theorem handed_perform_of_ne {i : Nat} (h : job.slot ≠ i) :
    (c.perform now job interrupt).2.handed i = c.handed i := by
  rw [perform]
  split
  · rfl
  · simp [handed, Entry.handed?, h]

theorem handed_perform {slot : Slot} (h : c.slots[job.slot]? = some slot) :
    (c.perform now job interrupt).2.handed job.slot =
      c.handed job.slot ++ [(job.batch, (slot.dispatch now job.batch interrupt).1)] := by
  simp [perform, h, handed, Entry.handed?]

end Perform

section Work

variable (now : Instant)

theorem next_of_jobs_eq_nil (h : c.jobs = []) : c.next now = c := by
  rw [next, h]

theorem next_of_jobs_eq_cons {job : Job} {rest : List Job} (h : c.jobs = job :: rest) :
    c.next now = ({ c with jobs := rest }.perform now job none).2 := by
  rw [next, h]

theorem work_of_jobs_eq_nil (h : c.jobs = []) : c.work now = c := by
  cases c with
  | mk slots queue jobs closed journal =>
    obtain rfl : jobs = [] := h
    rfl

theorem work_of_jobs_eq_cons {job : Job} {rest : List Job} (h : c.jobs = job :: rest) :
    c.work now = (c.next now).work now := by
  rw [next_of_jobs_eq_cons now h, work, work, h, jobs_perform, List.foldl_cons, perform_of_jobs]

/-- What the worker keeps with each batch it keeps with all of them, after which none waits. -/
theorem work_keeps {P : Client → Prop} (step : ∀ c, P c → P (c.next now)) (h : P c) :
    P (c.work now) ∧ (c.work now).jobs = [] := by
  generalize hn : c.jobs = jobs
  induction jobs generalizing c with
  | nil =>
    rw [work_of_jobs_eq_nil now hn]
    exact ⟨h, hn⟩
  | cons job rest ih =>
    rw [work_of_jobs_eq_cons now hn]
    apply ih (step c h)
    rw [next_of_jobs_eq_cons now hn, jobs_perform]

end Work

section Send

theorem send_of_open (h : c.closed = false) (s : Snapshot) :
    (c.send s).1 = { c with queue := c.queue.push s } := by
  simp [send, h]

theorem sendAll_of_open (h : c.closed = false) (ss : List Snapshot) :
    (BufferedClient.sendAll c ss).1 = { c with queue := c.queue ++ ss.toArray } := by
  induction ss generalizing c with
  | nil => simp [BufferedClient.sendAll]
  | cons s ss ih =>
    have hs : (BufferedClient.send c s).1 = { c with queue := c.queue.push s } := send_of_open h s
    rw [BufferedClient.sendAll]
    simp only [hs]
    rw [ih (c := { c with queue := c.queue.push s }) h]
    simp

end Send

section Closed

variable (h : c.closed = true)
include h

theorem send_of_closed (s : Snapshot) : (c.send s).1 = c := by
  simp [send, h]

theorem sendAll_of_closed (ss : List Snapshot) : (BufferedClient.sendAll c ss).1 = c := by
  induction ss with
  | nil => rfl
  | cons s ss ih =>
    have hs : (BufferedClient.send c s).1 = c := send_of_closed h s
    rw [BufferedClient.sendAll]
    simp only [hs, ih]

theorem submit_of_closed : c.submit.1 = c := by
  simp [submit, h]

end Closed

section Submit

private theorem flatMap_zipIdx_of_lt {α β : Type} (f : α → List β) (l : List α) {k i : Nat}
    (h : i < k) : ((l.zipIdx k).flatMap fun p => if p.2 = i then f p.1 else []) = [] := by
  rw [List.flatMap_eq_nil_iff]
  intro p hp
  have hk : k ≤ p.2 := List.le_snd_of_mem_zipIdx hp
  exact if_neg (by omega)

private theorem flatMap_zipIdx {α β : Type} (f : α → List β) (l : List α) (k i : Nat) :
    ((l.zipIdx k).flatMap fun p => if p.2 = k + i then f p.1 else []) =
      (l[i]?.map f).getD [] := by
  induction l generalizing k i with
  | nil => rfl
  | cons a l ih =>
    rw [List.zipIdx_cons, List.flatMap_cons]
    cases i with
    | zero =>
      have hl := flatMap_zipIdx_of_lt f l (Nat.lt_succ_self k)
      rw [Nat.add_zero, if_pos rfl, hl, List.append_nil, List.getElem?_cons_zero]
      rfl
    | succ i =>
      have hk : k ≠ k + (i + 1) := by omega
      have hi : k + (i + 1) = k + 1 + i := by omega
      rw [if_neg hk, List.nil_append, hi, ih, List.getElem?_cons_succ]

private theorem filterMap_batchFor? (batches : List (List Snapshot)) (n i : Nat) :
    (batches.map (Job.mk n)).filterMap (Job.batchFor? i) = if n = i then batches else [] := by
  by_cases h : n = i <;> simp [List.filterMap_map, Function.comp_def, Job.batchFor?, h]

theorem select_nil (s : Slot) : s.select [] = ([], s) := by
  cases s with
  | mk publisher filter diff circuit => cases diff <;> rfl

/-- What a flush queues is for publishers of the client, and noted. -/
theorem submit_queues (c : Client) :
    ∃ new : List Job, (∀ job ∈ new, job.slot < c.slots.length) ∧
      c.submit.1.jobs = c.jobs ++ new ∧
      c.submit.1.journal.toList = c.journal.toList ++ new.map Entry.queued ∧
      c.submit.1.slots.length = c.slots.length := by
  rw [submit]
  split
  · exact ⟨[], by simp⟩
  · refine ⟨_, ?_, rfl, by simp, by simp⟩
    intro job hj
    obtain ⟨⟨⟨chosen, slot⟩, i⟩, hm, hb⟩ := List.mem_flatMap.1 hj
    obtain ⟨batch, -, rfl⟩ := List.mem_map.1 hb
    have hi := List.snd_lt_of_mem_zipIdx hm
    simpa using hi

theorem submit_of_queue_eq (h : c.queue = #[]) : c.submit.1 = c := by
  simp [submit, h]

variable (h : c.closed = false)
include h

@[simp] theorem closed_submit : c.submit.1.closed = false := by
  rw [submit]
  split <;> exact h

theorem queue_submit : c.submit.1.queue = #[] := by
  by_cases hq : c.queue = #[]
  · rw [submit_of_queue_eq hq, hq]
  · simp [submit, h, hq]

theorem handed_submit (i : Nat) : c.submit.1.handed i = c.handed i := by
  by_cases hq : c.queue = #[]
  · rw [submit_of_queue_eq hq]
  · simp [submit, h, hq, handed, Entry.handed?]

theorem slots_submit {i : Nat} {s : Slot} (hs : c.slots[i]? = some s) :
    c.submit.1.slots[i]? = some (s.select c.queue.toList).2 := by
  by_cases hq : c.queue = #[]
  · rw [submit_of_queue_eq hq, hs, hq, select_nil]
  · simp [submit, h, hq, hs]

theorem waiting_submit {i : Nat} {s : Slot} (hs : c.slots[i]? = some s) :
    c.submit.1.waiting i = c.waiting i ++ s.batches (s.select c.queue.toList).1 := by
  by_cases hq : c.queue = #[]
  · rw [submit_of_queue_eq hq, hq, select_nil, Slot.batches, chunks_nil, List.append_nil]
  · have hb := flatMap_zipIdx (fun p : List Snapshot × Slot => p.2.batches p.1)
      (c.slots.map (·.select c.queue.toList)) 0 i
    simp only [Nat.zero_add, List.getElem?_map, hs, Option.map_some, Option.getD_some,
      (Slot.select_alike _).batches_eq] at hb
    have he : c.queue.isEmpty = false := by simpa using hq
    simp only [submit, h, he, Bool.or_self, Bool.false_eq_true, if_false, waiting,
      List.filterMap_append, List.filterMap_flatMap, filterMap_batchFor?]
    rw [hb]

end Submit

end Telemetry.Client
