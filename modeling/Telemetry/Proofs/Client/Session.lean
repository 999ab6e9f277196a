import Telemetry.Proofs.Client.Run
/-!
# A client and its worker

A client goes on while its worker does jobs, and it is shut down step by step: it is closed, the
dispatchers are shut down one by one, the worker is told to stop, and when it has come to an end the
publishers are let go of one by one. Main facts: what a client does in one go it does in such steps
too.
-/
namespace Telemetry.Client

/-- A job that the worker has begun. Its dispatcher may have been shut down since, in the call whose
number is `interrupt`, or before the job was begun, in which case that is 0. -/
structure Task where
  job : Job
  now : Instant
  interrupt : Option Nat

/-- The dispatcher of publisher `i` is shut down in the call number `k` of the task. -/
def Task.halt (t : Task) (i k : Nat) : Task :=
  if t.job.slot = i then { t with interrupt := some k } else t

theorem Task.job_halt (t : Task) (i k : Nat) : (t.halt i k).job = t.job := by
  rw [halt]
  split <;> rfl

/-- How far the shutdown of a client has come. -/
inductive Stage where
  | serving
  /-- The client is closed, and the first dispatchers are shut down. -/
  | halting (dispatchers : Nat)
  /-- The worker is told to stop. -/
  | stopped
  /-- The worker has come to an end, and the first publishers are let go of. -/
  | releasing (publishers : Nat)

namespace Stage

/-- The dispatcher of publisher `i` is shut down. -/
def Halted (i : Nat) : Stage → Prop
  | serving => False
  | halting n => i < n
  | stopped | releasing _ => True

def Stopped : Stage → Prop
  | serving | halting _ => False
  | stopped | releasing _ => True

instance (i : Nat) (stage : Stage) : Decidable (stage.Halted i) := by
  cases stage <;> unfold Halted <;> infer_instance

instance (stage : Stage) : Decidable stage.Stopped := by
  cases stage <;> unfold Stopped <;> infer_instance

theorem Halted.ne_serving {i : Nat} {stage : Stage} (h : stage.Halted i) : stage ≠ serving := by
  rintro rfl
  exact h

theorem Stopped.ne_serving {stage : Stage} (h : stage.Stopped) : stage ≠ serving := by
  rintro rfl
  exact h

/-- The number of publishers that are let go of. -/
def released : Stage → Nat
  | releasing n => n
  | _ => 0

end Stage

structure Session where
  client : Client
  task : Option Task := none
  stage : Stage := .serving

/-- Lets go of a publisher. -/
def release (c : Client) (i : Nat) : Client :=
  { c with slots := c.slots.modify i Slot.shutdown, journal := c.journal.push (.released i) }

/-- Lets go of all publishers and of the jobs that are left. -/
def letGo (c : Client) : Client :=
  { c with
    slots := c.slots.map (·.shutdown)
    jobs := []
    journal := c.journal ++ (List.range c.slots.length).map Entry.released }

theorem shutdown_eq_letGo {c : Client} (h : c.closed = false) :
    c.shutdown.1 = letGo { c with closed := true } := by
  simp [shutdown, letGo, h]

/-- Something that happens in a session: the client is used, its worker begins or ends a job, or its
shutdown goes on by a step, at which the job in progress, if there is one, is in the call whose
number is given. -/
inductive Move where
  | send (s : Snapshot)
  | sendAll (ss : List Snapshot)
  | submit
  | setFailing (i : Nat) (failing : Bool)
  | shutdown
  | start (now : Instant)
  | finish
  | proceed (call : Nat)

/-- This is done by the worker or by a shutdown that has begun. -/
def Move.Internal : Move → Prop
  | start _ | finish | proceed _ => True
  | _ => False

namespace Session

/-- The worker takes the job that waits longest. When it is told to stop it throws it away. -/
def start (s : Session) (now : Instant) : Session :=
  match s.task, s.client.jobs with
  | none, job :: rest =>
    let client := { s.client with jobs := rest }
    if s.stage.Stopped then { s with client }
    else
      let interrupt := if s.stage.Halted job.slot then some 0 else none
      { s with client, task := some { job, now, interrupt } }
  | _, _ => s

def finish (s : Session) : Session :=
  match s.task with
  | none => s
  | some t =>
    { s with client := (s.client.perform t.now t.job t.interrupt).2, task := none }

/-- A shutdown is begun, unless one was before. -/
def close (s : Session) : Session :=
  if s.client.closed then s
  else { s with client := { s.client with closed := true }, stage := .halting 0 }

/-- The shutdown goes on. It waits for the worker before publishers are let go of. -/
def proceed (s : Session) (call : Nat) : Session :=
  match s.stage with
  | .serving => s
  | .halting n =>
    if n < s.client.slots.length then
      { s with task := s.task.map (·.halt n call), stage := .halting (n + 1) }
    else { s with stage := .stopped }
  | .stopped =>
    if s.task.isNone && s.client.jobs.isEmpty then { s with stage := .releasing 0 } else s
  | .releasing n =>
    if n < s.client.slots.length then
      { s with client := s.client.release n, stage := .releasing (n + 1) }
    else s

def act (s : Session) : Move → Session
  | .send x => { s with client := (s.client.send x).1 }
  | .sendAll xs => { s with client := (BufferedClient.sendAll s.client xs).1 }
  | .submit => { s with client := s.client.submit.1 }
  | .setFailing i failing => { s with client := s.client.modify i (·.setFailing failing) }
  | .shutdown => s.close
  | .start now => s.start now
  | .finish => s.finish
  | .proceed call => s.proceed call

def run (s : Session) (moves : List Move) : Session :=
  moves.foldl act s

/-- A session that is over: all publishers of the client are let go of. -/
def finished (c : Client) : Session :=
  { client := c, stage := .releasing c.slots.length }

/-- The worker and a shutdown that has begun bring one session to the other. -/
def Settles (s s' : Session) : Prop :=
  ∃ moves : List Move, (∀ m ∈ moves, m.Internal) ∧ s.run moves = s'

namespace Settles

variable {s s' s'' : Session}

theorem refl (s : Session) : s.Settles s :=
  ⟨[], by simp, rfl⟩

theorem step {m : Move} (hm : m.Internal) (h : (s.act m).Settles s') : s.Settles s' := by
  obtain ⟨moves, hi, hr⟩ := h
  refine ⟨m :: moves, ?_, hr⟩
  simpa [hm] using hi

theorem trans (h : s.Settles s') (h' : s'.Settles s'') : s.Settles s'' := by
  obtain ⟨moves, hi, rfl⟩ := h
  obtain ⟨moves', hi', rfl⟩ := h'
  refine ⟨moves ++ moves', ?_, by rw [run, List.foldl_append]; rfl⟩
  intro m hm
  rcases List.mem_append.1 hm with hm | hm
  · exact hi m hm
  · exact hi' m hm

end Settles

variable {c : Client}

section Work

variable (now : Instant)

/-- The worker begins and ends a job while the client serves. -/
theorem start_finish {job : Job} {rest : List Job} (h : c.jobs = job :: rest) :
    ((mk c none .serving).act (.start now)).act .finish = mk (c.next now) none .serving := by
  rw [next_of_jobs_eq_cons now h]
  simp [act, start, finish, h, Stage.Stopped, Stage.Halted]

theorem work_settles : (mk c none .serving).Settles (mk (c.work now) none .serving) := by
  generalize hj : c.jobs = jobs
  induction jobs generalizing c with
  | nil =>
    rw [work_of_jobs_eq_nil now hj]
    exact .refl _
  | cons job rest ih =>
    rw [work_of_jobs_eq_cons now hj]
    apply Settles.step (m := .start now) trivial
    apply Settles.step (m := .finish) trivial
    rw [start_finish now hj]
    apply ih
    rw [next_of_jobs_eq_cons now hj, jobs_perform]

end Work

section Close

/-- Dispatchers are shut down while the worker is in the call number `k` of its task. -/
theorem halting_settles (task : Option Task) (n k : Nat) :
    ∃ task', (mk c task (.halting n)).Settles (mk c task' .stopped) ∧
      (task = none → task' = none) ∧
      ∀ t ∈ task, t.job.slot < c.slots.length →
        task' = if n ≤ t.job.slot then some { t with interrupt := some k } else some t := by
  generalize hd : c.slots.length - n = d
  induction d generalizing n task with
  | zero =>
    have hn : ¬ n < c.slots.length := by omega
    refine ⟨task, ?_, id, ?_⟩
    · apply Settles.step (m := .proceed k) trivial
      simp only [act, proceed, if_neg hn]
      exact .refl _
    · intro t ht hl
      rw [if_neg (by omega)]
      exact ht
  | succ d ih =>
    have hn : n < c.slots.length := by omega
    obtain ⟨task', hs, he, ht⟩ := ih (task.map (·.halt n k)) (n + 1) (by omega)
    refine ⟨task', ?_, ?_, ?_⟩
    · apply Settles.step (m := .proceed k) trivial
      simpa only [act, proceed, if_pos hn] using hs
    · rintro rfl
      exact he rfl
    · rintro t rfl hl
      have hs : (t.halt n k).job.slot = t.job.slot := by rw [t.job_halt]
      have h := ht (t.halt n k) rfl (hs ▸ hl)
      rw [h, hs]
      by_cases hi : t.job.slot = n
      · rw [if_neg (by omega), if_pos (by omega), Task.halt, if_pos hi]
      · have hle : n + 1 ≤ t.job.slot ↔ n ≤ t.job.slot := by omega
        simp only [Task.halt, if_neg hi, hle]

/-- The worker throws away the jobs that are left. -/
theorem discard_settles :
    (mk c none .stopped).Settles (mk { c with jobs := [] } none .stopped) := by
  generalize hj : c.jobs = jobs
  induction jobs generalizing c with
  | nil =>
    rw [← hj]
    exact .refl _
  | cons job rest ih =>
    apply Settles.step (m := .start 0) trivial
    have hs : (mk c none .stopped).act (.start 0) = mk { c with jobs := rest } none .stopped := by
      simp [act, start, hj, Stage.Stopped]
    rw [hs]
    exact ih (c := { c with jobs := rest }) rfl

theorem release_settles {n : Nat} (h : n ≤ c.slots.length) :
    (mk c none (.releasing n)).Settles (finished { c with
      slots := c.slots.mapIdx fun i s => if n ≤ i then s.shutdown else s
      journal := c.journal ++ (List.range' n (c.slots.length - n)).map Entry.released }) := by
  generalize hd : c.slots.length - n = d
  induction d generalizing n c with
  | zero =>
    obtain rfl : n = c.slots.length := by omega
    have hs : (c.slots.mapIdx fun i s => if c.slots.length ≤ i then s.shutdown else s) =
        c.slots := by
      apply List.ext_getElem (by simp)
      intro i hi hi'
      simp [Nat.not_le.2 hi']
    have hj : c.journal ++ (List.range' c.slots.length 0).map Entry.released = c.journal := by simp
    rw [hs, hj]
    exact .refl _
  | succ d ih =>
    have hn : n < c.slots.length := by omega
    have hl : (c.release n).slots.length = c.slots.length := by simp [release]
    have hi := ih (c := c.release n) (n := n + 1) (by omega) (by omega)
    have hs : ((c.release n).slots.mapIdx fun i s => if n + 1 ≤ i then s.shutdown else s) =
        c.slots.mapIdx fun i s => if n ≤ i then s.shutdown else s := by
      apply List.ext_getElem (by simp [release])
      intro i hi hi'
      simp only [release, List.getElem_mapIdx, List.getElem_modify]
      by_cases hni : n = i
      · have hle : ¬ n + 1 ≤ i := by omega
        rw [if_neg hle, if_pos hni, if_pos (Nat.le_of_eq hni)]
      · have hle : n + 1 ≤ i ↔ n ≤ i := by omega
        simp only [if_neg hni, hle]
    have hj : (c.release n).journal ++ (List.range' (n + 1) d).map Entry.released =
        c.journal ++ (List.range' n (d + 1)).map Entry.released := by
      simp [release, List.range'_succ]
    rw [hs, hj] at hi
    apply Settles.step (m := .proceed 0) trivial
    simp only [act, proceed, if_pos hn]
    exact hi

/-- The worker comes to an end, and the publishers are let go of. -/
theorem stopped_settles : (mk c none .stopped).Settles (finished c.letGo) := by
  have h := release_settles (c := { c with jobs := [] }) (Nat.zero_le _)
  have hs : (c.slots.mapIdx fun i s => if 0 ≤ i then s.shutdown else s) =
      c.slots.map (·.shutdown) := by
    apply List.ext_getElem <;> simp
  simp only [hs, Nat.sub_zero, ← List.range_eq_range'] at h
  apply discard_settles.trans
  apply Settles.step (m := .proceed 0) trivial
  exact h

/-- Once a shutdown has begun on an idle worker, it comes to its end. -/
theorem closing_settles_idle : (mk c none (.halting 0)).Settles (finished c.letGo) := by
  obtain ⟨task', hs, hn, -⟩ := halting_settles (c := c) none 0 0
  obtain rfl := hn rfl
  exact hs.trans stopped_settles

/-- Once a shutdown has begun in the call number `k` of a task, the task is brought to its end, and
then the shutdown. -/
theorem closing_settles_busy {t : Task} (h : t.job.slot < c.slots.length) (k : Nat) :
    (mk c (some t) (.halting 0)).Settles
      (finished (c.perform t.now t.job (some k)).2.letGo) := by
  obtain ⟨task', hs, -, ht⟩ := halting_settles (c := c) (some t) 0 k
  obtain rfl := ht t rfl h
  apply hs.trans
  apply Settles.step (m := .finish) trivial
  exact stopped_settles

end Close

section Whole

variable (now : Instant)

theorem shutdown_settles (h : c.closed = false) :
    ((mk c none .serving).act .shutdown).Settles (finished c.shutdown.1) := by
  rw [shutdown_eq_letGo h]
  simp only [act, close, h, Bool.false_eq_true, if_false]
  exact closing_settles_idle

/-- What is interrupted in the call of a job comes to an end with it, and the client with it. -/
theorem interrupted_settles (h : c.closed = false) {job : Job} {rest : List Job}
    (hj : c.jobs = job :: rest) (hs : job.slot < c.slots.length) (k : Nat) :
    ∃ s, (mk c none .serving).Settles s ∧ (s.act .shutdown).Settles
      (finished ({ c with jobs := [] }.perform now job (some k)).2.shutdown.1) := by
  refine ⟨mk { c with jobs := rest } (some ⟨job, now, none⟩) .serving, ?_, ?_⟩
  · apply Settles.step (m := .start now) trivial
    have ha : (mk c none .serving).act (.start now) =
        mk { c with jobs := rest } (some ⟨job, now, none⟩) .serving := by
      simp [act, start, hj, Stage.Stopped, Stage.Halted]
    rw [ha]
    exact .refl _
  · have hd : ({ c with jobs := [] }.perform now job (some k)).2.closed = false :=
      (closed_perform now job (some k)).trans h
    have hb := closing_settles_busy (c := { c with jobs := rest, closed := true })
      (t := ⟨job, now, none⟩) hs k
    rw [← perform_with now job (some k) rest true] at hb
    rw [shutdown_eq_letGo hd, ← perform_of_jobs]
    simp only [act, close, h, Bool.false_eq_true, if_false]
    exact hb

/-- A client that is shut down from within a publish call is one on which a shutdown is begun while
the worker is in that call. -/
theorem workUntilCall_settles (h : c.closed = false) (i k : Nat) :
    ∃ s, (mk c none .serving).Settles s ∧ (s.act .shutdown).Settles
      (finished (workUntilCall now i k c.jobs { c with jobs := [] }).1) := by
  generalize hj : c.jobs = jobs
  induction jobs generalizing c k with
  | nil =>
    have hc : { c with jobs := [] } = c := by rw [← hj]
    rw [hc]
    exact ⟨_, .refl _, shutdown_settles h⟩
  | cons job rest ih =>
    -- the worker is through with this job before the shutdown begins
    have onward (k : Nat) : ∃ s, (mk c none .serving).Settles s ∧
        (s.act .shutdown).Settles (finished
          (workUntilCall now i k rest ({ c with jobs := [] }.perform now job none).2).1) := by
      have hn := next_of_jobs_eq_cons now hj
      have hc : (c.next now).closed = false := by rw [hn, closed_perform, h]
      have hr : (c.next now).jobs = rest := by rw [hn, jobs_perform]
      obtain ⟨s, hs, he⟩ := ih hc k hr
      rw [hn, perform_of_jobs] at he
      refine ⟨s, ?_, he⟩
      apply Settles.step (m := .start now) trivial
      apply Settles.step (m := .finish) trivial
      rwa [start_finish now hj]
    rw [workUntilCall]
    by_cases hi : job.slot = i
    · rw [if_pos hi]
      cases hs : c.slots[job.slot]? with
      | none =>
        have hp (interrupt : Option Nat) : { c with jobs := [] }.perform now job interrupt =
            (none, { c with jobs := [] }) := by
          simp only [perform, hs]
        simp only [hp] at onward ⊢
        exact onward k
      | some slot =>
        have hp (interrupt : Option Nat) : { c with jobs := [] }.perform now job interrupt =
            (some (slot.dispatch now job.batch interrupt).1,
              ({ c with jobs := [] }.perform now job interrupt).2) := by
          simp only [perform, hs]
        rw [hp]
        by_cases hc : k < (slot.dispatch now job.batch (some k)).1.calls
        · have hl : job.slot < c.slots.length := (List.getElem?_eq_some_iff.1 hs).1
          simp only [if_pos hc]
          exact interrupted_settles now h hj hl k
        · -- the job ends before that call, so it makes no difference that it was to be interrupted
          have hle : (slot.dispatch now job.batch none).1.calls ≤ k := by
            rw [Slot.calls_dispatch_interrupted] at hc
            omega
          have hd : { c with jobs := [] }.perform now job (some k) =
              { c with jobs := [] }.perform now job none := by
            have he := Slot.dispatch_interrupted_of_le slot job.batch now hle
            simp only [perform, hs, he]
          simp only [if_neg hc, hd]
          exact onward _
    · rw [if_neg hi]
      exact onward k

/-- Whatever a client that serves does in one go, it does step by step as well. -/
theorem flush_settles :
    ((mk c none .serving).act .submit).Settles (mk (c.flush now).1 none .serving) :=
  work_settles now

theorem flushInterrupted_settles (h : c.closed = false) (i k : Nat) :
    ∃ s, ((mk c none .serving).act .submit).Settles s ∧
      (s.act .shutdown).Settles (finished (c.flushInterrupted now i k).1) :=
  workUntilCall_settles now (closed_submit h) i k

end Whole

end Session

end Telemetry.Client
