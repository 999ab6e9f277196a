import Telemetry.Proofs.Dispatcher.Passages
/-!
# Batches for a dead backend

A run of a dispatcher all of whose publish calls fail. Main statement: once as many batches have
failed as the breaker allows, a batch is attempted only if the wait has gone by since the end of
the latest batch that was attempted, and the circuit stays open.
-/
namespace Telemetry

/-- A call to a backend that is down: it fails and dispatches nothing, shuts nothing down, and the
clock does not go back in it. -/
structure Call.Down {σ : Type} (call : Call σ) : Prop where
  plain : call.Plain
  fails : ∀ s, ∃ e, (call s).1 = .error e
  stopped : ∀ s, (call s).2.stopped = s.stopped
  now_le : ∀ s, s.now ≤ (call s).2.now

/-- The most calls that are made for a batch. -/
def RetryConfig.maxCalls (c : RetryConfig) : Nat :=
  if c.enabled then c.attempts + 1 else 1

namespace Dispatcher

theorem retries_ofConfig (name : String) (retry : RetryConfig) (breaker : BreakerConfig) :
    (ofConfig name retry breaker).retries + 1 = retry.maxCalls := by
  rw [ofConfig, RetryConfig.maxCalls]
  split <;> rfl

/-- When the latest of some batches that were attempted was done with. -/
def lastEnd? {σ : Type} (past : List (Passage σ)) : Option Instant :=
  (past.filter (·.report.outcome != .rejected)).getLast?.map (·.finish.now)

section Down

variable {σ : Type} {d : Dispatcher} {publish : Nat → Call σ} (hd : ∀ i, (publish i).Down)
include hd

/-- Only a shutdown ends the attempts for a batch early if all of them fail. -/
theorem attempt_of_down (left made : Nat) {s : Scene σ} (hs : s.stopped = false) :
    ∃ e, (d.attempt publish left made s).1 = (.error e, made + left + 1) := by
  fun_induction attempt d publish left made s with
  | case1 left made s s' h =>
    -- no call goes well
    obtain ⟨e, he⟩ := (hd made).fails s
    rw [h] at he
    cases he
  | case2 made s e s' h => exact ⟨e, rfl⟩
  | case3 made s e s' h left ht =>
    have hk := (hd made).stopped s
    rw [h, hs] at hk
    exact absurd ht (Bool.eq_false_iff.1 hk)
  | case4 made s e s' h left ht ih =>
    obtain ⟨e, he⟩ := ih (Bool.not_eq_true _ ▸ ht)
    refine ⟨e, he.trans ?_⟩
    rw [Nat.add_right_comm made 1 left, Nat.add_assoc made left 1]

theorem dispatch_keeps_running {s : Scene σ} (hs : s.stopped = false) :
    (d.dispatch publish s).2.stopped = false ∧ s.now ≤ (d.dispatch publish s).2.now :=
  dispatch_keeps (P := fun u => u.stopped = false ∧ s.now ≤ u.now) (fun _ _ h => h)
    (fun i u h => ⟨((hd i).stopped u).trans h.1, h.2.trans ((hd i).now_le u)⟩)
    (fun _ _ _ _ _ h => h) ⟨hs, Nat.le_refl _⟩

/-- A batch that is let in fails after all its attempts, which is one failure to the circuit. -/
theorem dispatch_of_down {config : BreakerConfig} (hb : d.breaker = some config) {s : Scene σ}
    (hs : s.stopped = false) {c : Circuit} (h : s.circuit.enter? config s.now = some c) :
    (d.dispatch publish s).1 = ⟨.failed, d.retries + 1⟩ ∧ (d.dispatch publish s).2.circuit =
      c.record config (d.dispatch publish s).2.now false := by
  have hs' : (s.step d.name config (.enter s.now)).stopped = false := hs
  obtain ⟨e, he⟩ := attempt_of_down (d := d) hd d.retries 0 hs'
  constructor
  · rw [dispatch_of_enter?_eq_some publish hb h]
    simp only [he, conclude, Nat.zero_add]
  · rw [circuit_dispatch hb fun i => (hd i).plain, lastAttempt_of_enter?_eq_some hb h, he]
    simp only [Option.map_some, verdict, circuitAfter, Circuit.step, h, Option.getD_some]
    rfl

end Down

section Run

variable {σ : Type} {d : Dispatcher} {config : BreakerConfig} {past : List (Passage σ)}
  {s : Scene σ}

theorem lastEnd?_concat (past : List (Passage σ)) (p : Passage σ) : lastEnd? (past ++ [p]) =
    if p.report.outcome = .rejected then lastEnd? past else some p.finish.now := by
  rw [lastEnd?, List.filter_append]
  by_cases h : p.report.outcome = .rejected <;> simp [h, lastEnd?]

/-- What batches leave behind if all their calls fail: the circuit counts them until it opens, and
from then on it was opened by the latest that was attempted. -/
structure Outage (config : BreakerConfig) (past : List (Passage σ)) (s : Scene σ) : Prop where
  running : s.stopped = false
  counting : past.length < config.failureThreshold → s.circuit = .closed past.length
  holding : config.failureThreshold ≤ past.length →
    ∃ e, lastEnd? past = some e ∧ s.circuit = .opened e ∧ e ≤ s.now

/-- What becomes of a batch that comes after others if all calls fail, with how many calls. -/
structure Spared (config : BreakerConfig) (calls : Nat) (past : List (Passage σ))
    (p : Passage σ) : Prop where
  early : past.length < config.failureThreshold → p.report = ⟨.failed, calls⟩
  late : config.failureThreshold ≤ past.length → ∃ e, lastEnd? past = some e ∧ p.report =
    if e + config.connectWait ≤ p.start.now then ⟨.failed, calls⟩ else ⟨.rejected, 0⟩
  opened : config.failureThreshold ≤ past.length + 1 →
    ∃ since, p.finish.circuit = .opened since

theorem Spared.of_late {calls : Nat} {p : Passage σ} (hn : config.failureThreshold ≤ past.length)
    {e since : Instant} (he : lastEnd? past = some e) (hc : p.finish.circuit = .opened since)
    (hr : p.report =
      if e + config.connectWait ≤ p.start.now then ⟨.failed, calls⟩ else ⟨.rejected, 0⟩) :
    Spared config calls past p where
  early ht := absurd hn (Nat.not_le.2 ht)
  late _ := ⟨e, he, hr⟩
  opened _ := ⟨since, hc⟩

namespace Outage

/-- Once as many batches have come as may fail, it only matters when the circuit was opened. -/
theorem of_opened {p : Passage σ} (hn : config.failureThreshold ≤ past.length + 1)
    (hs : s.stopped = false) {e : Instant} (hl : lastEnd? (past ++ [p]) = some e)
    (hc : s.circuit = .opened e) (hle : e ≤ s.now) : Outage config (past ++ [p]) s where
  running := hs
  counting ht := by
    rw [List.length_append] at ht
    exact absurd hn (Nat.not_le.2 ht)
  holding _ := ⟨e, hl, hc, hle⟩

theorem fresh (h : config.failureThreshold ≠ 0) (world : σ) (now : Instant) :
    Outage config [] { world, now } where
  running := rfl
  counting _ := rfl
  holding ht := absurd (Nat.le_zero.1 ht) h

theorem advance (h : Outage config past s) (t : Duration) : Outage config past (s.advance t) where
  running := h.running
  counting := h.counting
  holding ht := by
    obtain ⟨e, he, hc, hle⟩ := h.holding ht
    exact ⟨e, he, hc, Nat.le_add_right_of_le hle⟩

section Step

variable (h : Outage config past s) (hb : d.breaker = some config) {publish : Nat → Call σ}
  (hd : ∀ i, (publish i).Down)
include h hb hd

/-- A batch that is let in fails after all its attempts, and is the latest that was attempted. -/
theorem attempted {c : Circuit} (hc : s.circuit.enter? config s.now = some c) :
    (d.passage publish s).report = ⟨.failed, d.retries + 1⟩ ∧
      (d.passage publish s).finish.circuit =
        c.record config (d.passage publish s).finish.now false ∧
      lastEnd? (past ++ [d.passage publish s]) = some (d.passage publish s).finish.now ∧
      (d.passage publish s).finish.stopped = false := by
  obtain ⟨hr, hf⟩ := dispatch_of_down hd hb h.running hc
  refine ⟨hr, hf, ?_, (dispatch_keeps_running hd h.running).1⟩
  have ho : (d.passage publish s).report.outcome ≠ .rejected := by
    rw [passage, hr]
    exact Outcome.noConfusion
  rw [lastEnd?_concat, if_neg ho]

/-- A batch that the circuit still counts. -/
theorem count (hn : past.length < config.failureThreshold) :
    Spared config (d.retries + 1) past (d.passage publish s) ∧
      Outage config (past ++ [d.passage publish s]) (d.passage publish s).finish := by
  have hc : s.circuit.enter? config s.now = some (.closed past.length) := by
    rw [h.counting hn]
    rfl
  obtain ⟨hr, hf, hl, hs⟩ := h.attempted hb hd hc
  rw [Circuit.record, if_neg Bool.false_ne_true] at hf
  by_cases ht : config.failureThreshold ≤ past.length + 1
  · rw [if_pos ht] at hf
    exact ⟨⟨fun _ => hr, fun hp => absurd hn (Nat.not_lt.2 hp), fun _ => ⟨_, hf⟩⟩,
      of_opened ht hs hl hf (Nat.le_refl _)⟩
  · rw [if_neg ht] at hf
    refine ⟨⟨fun _ => hr, fun hp => absurd hn (Nat.not_lt.2 hp), fun hp => absurd hp ht⟩, hs, ?_, ?_⟩
    · intro _
      rw [hf, List.length_append, List.length_singleton]
    · intro hp
      rw [List.length_append] at hp
      exact absurd hp ht

/-- A batch that comes when the wait is over is a probe that fails, which starts the wait again. -/
theorem probe (hn : config.failureThreshold ≤ past.length) {e : Instant} (he : lastEnd? past = some e)
    (hc : s.circuit = .opened e) (hw : e + config.connectWait ≤ s.now) :
    Spared config (d.retries + 1) past (d.passage publish s) ∧
      Outage config (past ++ [d.passage publish s]) (d.passage publish s).finish := by
  have hover : ¬ s.now - e < config.connectWait := Nat.not_lt.2 (Nat.le_sub_of_add_le' hw)
  have hp : s.circuit.enter? config s.now = some (.halfOpen 0) := by
    rw [hc, Circuit.enter?, if_neg hover]
  obtain ⟨hr, hf, hl, hs⟩ := h.attempted hb hd hp
  refine ⟨.of_late hn he hf ?_, of_opened (Nat.le_succ_of_le hn) hs hl hf (Nat.le_refl _)⟩
  rw [hr]
  exact (if_pos hw).symm

omit hd in
/-- A batch that comes before the wait is over is turned away, and the wait goes on. -/
theorem turnAway (hn : config.failureThreshold ≤ past.length) {e : Instant}
    (he : lastEnd? past = some e) (hc : s.circuit = .opened e) (hle : e ≤ s.now)
    (hw : ¬ e + config.connectWait ≤ s.now) :
    Spared config (d.retries + 1) past (d.passage publish s) ∧
      Outage config (past ++ [d.passage publish s]) (d.passage publish s).finish := by
  have hwait : s.now - e < config.connectWait := Nat.sub_lt_left_of_lt_add hle (Nat.not_le.1 hw)
  have hp : s.circuit.enter? config s.now = none := by
    rw [hc, Circuit.enter?, if_pos hwait]
  have hr : (d.passage publish s).report = ⟨.rejected, 0⟩ := by
    rw [passage, dispatch_of_enter?_eq_none publish hb hp]
  have hf : (d.passage publish s).finish = s.log [.circuitRejected d.name] := by
    rw [passage, dispatch_of_enter?_eq_none publish hb hp]
  have hl : lastEnd? (past ++ [d.passage publish s]) = some e := by
    rw [lastEnd?_concat, hr, if_pos rfl, he]
  have hc' : (d.passage publish s).finish.circuit = .opened e := by
    rw [hf]
    exact hc
  refine ⟨.of_late hn he hc' ?_, of_opened (Nat.le_succ_of_le hn) ?_ hl hc' ?_⟩
  · rw [hr]
    exact (if_neg hw).symm
  · rw [hf]
    exact h.running
  · rw [hf]
    exact hle

theorem passage : Spared config (d.retries + 1) past (d.passage publish s) ∧
    Outage config (past ++ [d.passage publish s]) (d.passage publish s).finish := by
  by_cases hn : past.length < config.failureThreshold
  · exact h.count hb hd hn
  · obtain ⟨e, he, hc, hle⟩ := h.holding (Nat.not_lt.1 hn)
    by_cases hw : e + config.connectWait ≤ s.now
    · exact h.probe hb hd (Nat.not_lt.1 hn) he hc hw
    · exact h.turnAway hb (Nat.not_lt.1 hn) he hc hle hw

end Step

/-- What holds of one batch holds of every batch of a run. -/
theorem spared (hb : d.breaker = some config) {bs : List (Batch σ)}
    (hd : ∀ b ∈ bs, b.shutdown = false ∧ ∀ i, (b.publish i).Down) (h : Outage config past s)
    {before after : List (Passage σ)} {p : Passage σ}
    (he : d.passages bs s = before ++ p :: after) :
    Spared config (d.retries + 1) (past ++ before) p := by
  -- what is left to come gets shorter while what is past, with its outage, gets longer
  induction bs generalizing past s before with
  | nil => exact absurd he.symm (List.append_ne_nil_of_right_ne_nil before (List.cons_ne_nil p after))
  | cons b bs ih =>
    obtain ⟨hq, hcalls⟩ := hd b List.mem_cons_self
    have ha : d.arrive b s = s.advance b.pause := by
      rw [arrive, if_neg (Bool.eq_false_iff.1 hq)]
    obtain ⟨first, later⟩ := (h.advance b.pause).passage hb hcalls
    rw [passages, ha] at he
    cases before with
    | nil =>
      obtain ⟨rfl, -⟩ := List.cons.inj he
      rwa [List.append_nil]
    | cons p' before =>
      obtain ⟨rfl, hrest⟩ := List.cons.inj he
      have hs := ih (fun x hx => hd x (List.mem_cons_of_mem b hx)) later hrest
      rwa [List.append_assoc] at hs

end Outage

/-- A dead backend is sent as many batches as the breaker allows to fail, and then no more than one
for each wait, counted from the end of the latest batch that was attempted. -/
theorem load_bounded (name : String) (retry : RetryConfig) {breaker : BreakerConfig}
    (hv : breaker.validate = .ok ()) (he : breaker.enabled = true) {bs : List (Batch σ)}
    (hd : ∀ b ∈ bs, b.shutdown = false ∧ ∀ i, (b.publish i).Down) (world : σ) (now : Instant)
    {before after : List (Passage σ)} {p : Passage σ}
    (hp : (ofConfig name retry breaker).passages bs { world, now } = before ++ p :: after) :
    Spared breaker retry.maxCalls before p := by
  have hb : (ofConfig name retry breaker).breaker = some breaker := if_pos he
  have ht : breaker.failureThreshold ≠ 0 := by
    intro h0
    rw [BreakerConfig.validate, if_pos h0] at hv
    split at hv <;> cases hv
  rw [← retries_ofConfig name retry breaker]
  exact Outage.spared hb hd (.fresh ht world now) hp

private def wary : BreakerConfig where
  failureThreshold := 2
  connectWait := 5

private def failing (pause : Duration) : Batch Unit where
  pause := pause
  publish := fun _ s => (.error (.other "down"), s.advance 1)

-- the last two waits are counted from the end of a probe, one falls short of it by a nanosecond
private def knocks : List (Batch Unit) :=
  [failing 0, failing 3, failing 4, failing 1, failing 4, failing 1]

theorem load_bounded_in_knocks :
    let d := ofConfig "backend" { attempts := 1 } wary
    let s : Scene Unit := { world := (), now := 7 }
    (∀ b ∈ knocks, b.shutdown = false ∧ ∀ i, (b.publish i).Down) ∧
      (d.passages knocks s).map (·.report) = [⟨.failed, 2⟩, ⟨.failed, 2⟩, ⟨.rejected, 0⟩,
        ⟨.failed, 2⟩, ⟨.rejected, 0⟩, ⟨.failed, 2⟩] ∧
      ∃ before p, d.passages knocks s = before ++ [p] ∧ lastEnd? before = some 21 ∧
        p.start.now = 26 ∧ Spared wary 2 before p := by
  intro d s
  have failing_down (pause : Duration) (i : Nat) : ((failing pause).publish i).Down :=
    ⟨fun _ => rfl, fun _ => ⟨_, rfl⟩, fun _ => rfl, fun s => Nat.le_add_right s.now 1⟩
  have hd : ∀ b ∈ knocks, b.shutdown = false ∧ ∀ i, (b.publish i).Down := by
    intro b hb
    fin_cases hb <;> exact ⟨rfl, failing_down _⟩
  refine ⟨hd, by decide +kernel, [_, _, _, _, _], _, rfl, by decide +kernel, by decide +kernel, ?_⟩
  exact load_bounded "backend" { attempts := 1 } rfl rfl hd () 7 rfl

end Run

end Dispatcher

end Telemetry
