import Telemetry.Client.Recorder
import Telemetry.Proofs.Agent.Publishing
import Telemetry.Proofs.Agent.Timetable
import Telemetry.Proofs.Client.Pool
/-!
# Endurance

Whether an agent is made, and how long it goes on with its cycles. Nothing that it collects or
publishes ends its scheduler, but an instant that is planned and cannot be kept does. Main statement:
what becomes of an accepted configuration on any machine, the number of the cycles of an agent, and
that it is stopped in good order after the last of them.
-/
namespace Telemetry

namespace Client

/-- A batch of every publisher may hold a snapshot, so what is sent can be cut into batches. -/
def Cuttable (c : Client) : Prop :=
  ∀ s ∈ c.slots, 0 < s.config.effectiveBatchSize

theorem cuttable (c : Client) : c.Cuttable :=
  fun s _ => s.config.effectiveBatchSize_pos

theorem closed_shutdown (c : Client) : c.shutdown.1.closed = true := by
  rw [shutdown]
  split
  · assumption
  · rfl

theorem schedulerDied_not_mem_shutdown (c : Client) : .schedulerDied ∉ c.shutdown.2 := by
  rw [shutdown]
  split
  · exact List.not_mem_nil
  · simp

/-- A client is launched if it is not refused and its workers start. -/
theorem launch_eq [Regex.Engine] (m : Machine) (config : AgentConfig) (ps : List Publisher) :
    (launch m config ps).2 = match (ofPublishers config ps).2 with
      | .error e => .refused (.config e)
      | .ok client => (Pool.start m poolName config.workers).map fun _ => client := by
  rw [launch]
  generalize ofPublishers config ps = made
  obtain ⟨events, e | client⟩ := made
  · rfl
  · dsimp only
    split
    next hr => exact hr.symm
    next => rfl

end Client

namespace Agent

section Build

variable [Regex.Engine] (m : Machine) {config : AgentConfig} (sources : Sources)
  {ps : List Publisher}

theorem build_eq (config : AgentConfig) (ps : List Publisher) :
    (build m config sources ps).2 = match (ofPublishers config sources ps).2 with
      | .error e => .refused (.config e)
      | .ok a => (Pool.start m Client.poolName config.workers).map fun _ => a := by
  change (Client.launch m config ps).2.map (fun client => Agent.mk config sources client 0) = _
  rw [Client.launch_eq, ofPublishers]
  generalize Client.ofPublishers config ps = made
  obtain ⟨events, e | client⟩ := made
  · rfl
  · dsimp only [Except.map]
    cases Pool.start m Client.poolName config.workers <;> rfl

theorem build_of_valid (hc : config.validate = .ok ())
    (hp : ∀ p ∈ ps, p.config.validate = .ok ()) :
    (build m config sources ps).2 = (Pool.start m Client.poolName config.workers).map fun _ =>
      { config, sources, client := { slots := ps.map (Slot.fresh config) } } := by
  rw [build_eq, ofPublishers_of_valid sources hc hp]

/-- An agent that is built is the one whose configuration is accepted, with all its workers. -/
theorem build_eq_ready_iff {a : Agent Client} : (build m config sources ps).2 = .ready a ↔
    (ofPublishers config sources ps).2 = .ok a ∧
      Pool.Holds m config.workers ∧ Pool.Starts m Client.poolName config.workers := by
  rw [build_eq]
  cases (ofPublishers config sources ps).2 with
  | error e => simp
  | ok b =>
    simp only [Made.map_eq_ready_iff, Pool.start_eq_ready_iff, Except.ok.injEq]
    constructor
    · rintro ⟨_, ⟨hh, hs, -⟩, rfl⟩
      exact ⟨rfl, hh, hs⟩
    · rintro ⟨rfl, hh, hs⟩
      exact ⟨_, ⟨hh, hs, rfl⟩, rfl⟩

end Build

section Run

variable {κ : Type} [BufferedClient κ] (a : Agent κ) (wall : Instant → WallTime) (start : Instant)
  (first : Schedule.Pace) (later : List Schedule.Pace) (fleet : Fleet)

theorem cycles_cycleAll (turns : List Schedule.Turn) :
    (cycleAll wall turns a fleet).1.cycles = a.cycles + turns.length := by
  induction turns generalizing a fleet with
  | nil => rfl
  | cons t turns ih =>
    have ha : (a.cycle (wall t.began) t.began fleet).2.1.cycles = a.cycles + 1 := rfl
    rw [cycleAll, ih, ha, List.length_cons, Nat.add_assoc, Nat.add_comm 1]

/-- A run is one cycle for each turn that could be planned, and then the client is shut down. -/
theorem run_eq : a.run wall start first later fleet =
    let paces := first :: later
    let planned := Schedule.planned a.config.collectFrequency start paces
    let turns := (Schedule.timetable a.config.collectFrequency start paces).take (planned + 1)
    let cycled := cycleAll wall turns a fleet
    let closed := BufferedClient.shutdown cycled.1.client
    ({ cycled.1 with client := closed.1 }, cycled.2,
      .agentStopping :: (if planned = paces.length then [] else [.schedulerDied]) ++ closed.2) := by
  rw [run, Schedule.turns_eq]
  simp only [decide_eq_true_eq]

theorem cycles_run : (a.run wall start first later fleet).1.cycles = a.cycles +
    min (Schedule.planned a.config.collectFrequency start (first :: later) + 1)
      (later.length + 1) := by
  rw [run_eq, ← List.length_cons, ← Schedule.length_timetable a.config.collectFrequency start,
    ← List.length_take]
  exact cycles_cycleAll a wall fleet _

variable {m : Machine}

theorem serve_of_refused {reason : String} (h : m.refusal? schedulerName = some reason) :
    a.serve m wall start first later fleet =
      ([.agentStarting], .error (.spawn schedulerName reason)) := by
  rw [serve, Machine.spawn?, h]
  rfl

theorem serve_of_started (h : m.refusal? schedulerName = none) :
    a.serve m wall start first later fleet =
      let stopped := a.run wall start first later fleet
      (.agentStarting :: stopped.2.2, .ok (stopped.1, stopped.2.1)) := by
  rw [serve, Machine.spawn?, h]
  rfl

end Run

theorem schedulerDied_mem_run_iff (a : Agent Client) (wall : Instant → WallTime) (start : Instant)
    (first : Schedule.Pace) (later : List Schedule.Pace) (fleet : Fleet) :
    .schedulerDied ∈ (a.run wall start first later fleet).2.2 ↔
      ¬ Schedule.Plannable a.config.collectFrequency start (first :: later) := by
  rw [run_eq, Schedule.plannable_iff]
  dsimp only
  split
  next h =>
    refine iff_of_false ?_ (not_not_intro h)
    simp [BufferedClient.shutdown, Client.schedulerDied_not_mem_shutdown]
  next h => exact iff_of_true (by simp) h

/-- An agent whose thread starts has a cycle for each turn that it could plan, and ends with its
client shut down. -/
theorem served_of_started (a : Agent Client) {m : Machine} (h : m.refusal? schedulerName = none)
    (wall : Instant → WallTime) (start : Instant) (first : Schedule.Pace)
    (later : List Schedule.Pace) (fleet : Fleet) :
    let paces := first :: later
    let served := a.serve m wall start first later fleet
    ∃ stopped collected, served.2 = .ok (stopped, collected) ∧
      stopped.cycles = a.cycles +
        min (Schedule.planned a.config.collectFrequency start paces + 1) paces.length ∧
      (.schedulerDied ∈ served.1 ↔ ¬ Schedule.Plannable a.config.collectFrequency start paces) ∧
      stopped.client.closed = true := by
  have he := serve_of_started a wall start first later fleet h
  refine ⟨_, _, congrArg Prod.snd he, cycles_run a wall start first later fleet, ?_,
    Client.closed_shutdown _⟩
  rw [← schedulerDied_mem_run_iff a wall start first later fleet, he, List.mem_cons,
    or_iff_right Event.noConfusion]

/-- On any machine an agent of what is accepted is made if there is memory for its workers and they
start; it panics if their handles take more bytes than a piece of memory may have. What an agent
sends can be cut into batches, and it goes on with its cycles until it is stopped, unless an instant
that it plans cannot be kept: then the cycle before that is its last. Its client is shut down in the
end in any case. -/
theorem goes_on_while_planned [Regex.Engine] {config : AgentConfig} {ps : List Publisher}
    (hc : config.validate = .ok ()) (hp : ∀ p ∈ ps, p.config.validate = .ok ()) (m : Machine)
    (sources : Sources) :
    let made := (build m config sources ps).2
    (made = .panicked ↔ Pool.maxBytes < config.workers * m.handleSize) ∧
    (∀ e, made = .refused e ↔
      Pool.Holds m config.workers ∧ Pool.Refuses m Client.poolName config.workers e) ∧
    ((∃ a, made = .ready a) ↔
      Pool.Holds m config.workers ∧ Pool.Starts m Client.poolName config.workers) ∧
    ∀ a, made = .ready a →
      ∀ (wall : Instant → WallTime) (start : Instant) (first : Schedule.Pace)
        (later : List Schedule.Pace) (fleet : Fleet),
      let paces := first :: later
      let served := a.serve m wall start first later fleet
      (∀ turns, (cycleAll wall turns a fleet).1.client.Cuttable) ∧
      (∀ reason, m.refusal? schedulerName = some reason →
        served = ([.agentStarting], .error (.spawn schedulerName reason))) ∧
      (m.refusal? schedulerName = none → ∃ stopped collected,
        served.2 = .ok (stopped, collected) ∧
        stopped.cycles =
          min (Schedule.planned config.collectFrequency start paces + 1) paces.length ∧
        (.schedulerDied ∈ served.1 ↔ ¬ Schedule.Plannable config.collectFrequency start paces) ∧
        stopped.client.closed = true) := by
  intro made
  have hm : made = (Pool.start m Client.poolName config.workers).map fun _ =>
      { config, sources, client := { slots := ps.map (Slot.fresh config) } } :=
    build_of_valid m sources hc hp
  have ho := ofPublishers_of_valid sources hc hp
  refine ⟨?_, fun e => ?_, ?_, ?_⟩
  · rw [hm, Made.map_eq_panicked_iff, Pool.start_eq_panicked_iff]
  · rw [hm, Made.map_eq_refused_iff, Pool.start_eq_refused_iff]
  · simp only [made, build_eq_ready_iff]
    exact ⟨fun ⟨_, _, hs⟩ => hs, fun hs => ⟨_, ho, hs⟩⟩
  · intro a ha wall start first later fleet paces served
    obtain ⟨ha, -⟩ := (build_eq_ready_iff m sources).1 ha
    obtain rfl := Except.ok.inj (ho.symm.trans ha)
    refine ⟨fun turns => Client.cuttable _, fun reason hr => ?_, fun hs => ?_⟩
    · exact serve_of_refused _ wall start first later fleet hr
    · obtain ⟨stopped, collected, hok, hn, hd, hcl⟩ :=
        served_of_started _ hs wall start first later fleet
      exact ⟨stopped, collected, hok, hn.trans (Nat.zero_add _), hd, hcl⟩

attribute [local instance] Regex.Engine.estimating

private def quiet : Publisher :=
  .memory (.named "quiet")

private theorem accepted_quiet : ∀ p ∈ [quiet], p.config.validate = .ok () := by
  simp only [List.mem_cons, List.not_mem_nil, or_false, forall_eq]
  decide

/-- The third cycle would be due 2 ^ 63 seconds after the first. -/
theorem goes_on_for_two_cycles :
    let config : AgentConfig := { collectFrequency := .ofSeconds 4611686018427387904 }
    config.validate = .ok () ∧ (∀ p ∈ [quiet], p.config.validate = .ok ()) ∧
      ∃ a : Agent Client, (build .willing config {} [quiet]).2 = .ready a ∧
        let served := a.serve .willing (fun _ => 0) 5000000000 {} [{}, {}] {}
        ∃ stopped collected, served.2 = .ok (stopped, collected) ∧ stopped.cycles = 2 ∧
          .schedulerDied ∈ served.1 ∧ stopped.client.closed = true := by
  intro config
  have hc : config.validate = .ok () := rfl
  obtain ⟨-, -, hr, h⟩ := goes_on_while_planned hc accepted_quiet .willing {}
  obtain ⟨a, ha⟩ := hr.2 ⟨⟨by decide, rfl⟩, fun _ _ => rfl⟩
  obtain ⟨-, -, h⟩ := h a ha (fun _ => 0) 5000000000 {} [{}, {}] {}
  obtain ⟨stopped, collected, ho, hn, hd, hs⟩ := h rfl
  refine ⟨hc, accepted_quiet, a, ha, stopped, collected, ho, ?_, ?_, hs⟩
  · refine hn.trans ?_
    decide +kernel
  · refine hd.2 ?_
    decide +kernel

end Agent

/-- Whatever is collected and published, agents so configured are made on the machine without a
panic and go on until they are stopped. -/
def AgentConfig.Endures [Regex.Engine] (config : AgentConfig) (m : Machine) : Prop :=
  ∀ (ps : List Publisher) (sources : Sources), (∀ p ∈ ps, p.config.validate = .ok ()) →
    (Agent.build m config sources ps).2 ≠ .panicked ∧
    ∀ a, (Agent.build m config sources ps).2 = .ready a →
      ∀ (wall : Instant → WallTime) (start : Instant) (first : Schedule.Pace)
        (later : List Schedule.Pace) (fleet : Fleet) (stopped : Agent Client) (collected : Fleet),
      (a.serve m wall start first later fleet).2 = .ok (stopped, collected) →
        .schedulerDied ∉ (a.serve m wall start first later fleet).1 ∧
          stopped.cycles = later.length + 1

namespace Agent

attribute [local instance] Regex.Engine.estimating

private def overlong : AgentConfig :=
  { collectFrequency := .longest, onlyRecent := false, workers := 1 }

private def crowded : AgentConfig :=
  { workers := UInt64.size - 1 }

private def counting : Sources :=
  { metrics := [.alone 0] }

private def counted : Fleet :=
  { metrics := #[(Metric.new (.ofName "c") .count).track 1700000000000000000 5] }

/-- The longest of all frequencies is accepted, and the second cycle cannot be planned. The greatest
number of workers is accepted, and nothing can hold them. -/
theorem not_endures :
    overlong.validate = .ok () ∧ ¬ overlong.Endures .willing ∧
      (∃ a : Agent Recorder, (ofClient overlong counting ({} : Recorder) 0).2 = .ok a ∧
        (a.serve .willing (fun _ => 1700000000000000000) 0 {} [] counted).1 =
          [.agentStarting, .agentStopping, .schedulerDied]) ∧
      crowded.validate = .ok () ∧ ∀ m : Machine, 0 < m.handleSize → ¬ crowded.Endures m := by
  have hc : overlong.validate = .ok () := rfl
  have hw : crowded.validate = .ok () := rfl
  refine ⟨hc, ?_, ⟨_, rfl, ?_⟩, hw, ?_⟩
  · intro h
    have ha := build_of_valid .willing counting hc accepted_quiet
    rw [Pool.start_eq_ready_iff.2 ⟨⟨by decide, rfl⟩, fun _ _ => rfl, rfl⟩] at ha
    obtain ⟨stopped, collected, ho, -, hd, -⟩ := served_of_started
      { config := overlong, sources := counting, client := { slots := [Slot.fresh overlong quiet] } }
      (m := .willing) rfl (fun _ => 1700000000000000000) 0 {} [] counted
    apply ((h [quiet] counting accepted_quiet).2 _ ha _ 0 {} [] counted stopped collected ho).1
    refine hd.2 ?_
    decide +kernel
  · decide +kernel
  · intro m hm h
    apply (h [] {} (by simp)).1
    rw [build_of_valid m {} hw (by simp), Made.map_eq_panicked_iff, Pool.start_eq_panicked_iff]
    exact Nat.lt_of_lt_of_le (by decide) (Nat.le_mul_of_pos_right crowded.workers hm)

end Agent

end Telemetry
