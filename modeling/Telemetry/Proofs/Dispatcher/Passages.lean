import Mathlib.Data.List.Forall2
import Mathlib.Tactic.FinCases
import Telemetry.Proofs.Dispatcher.Calls
/-!
# Batches one after the other

A run of a dispatcher in which no publish call dispatches a batch itself, so that every batch is
done with before the next one comes. Main statement: a circuit learns nothing of a batch but when
it came, when it was done with and how its last attempt went, whatever retries there were.
-/
namespace Telemetry

/-- The call leaves the circuit alone, so it dispatches nothing. Time may pass in it; if it fails,
that takes in the time waited before the next attempt. -/
def Call.Plain {σ : Type} (call : Call σ) : Prop :=
  ∀ s, (call s).2.circuit = s.circuit

/-- A batch that comes after a pause, in which the dispatcher may be shut down. -/
structure Batch (σ : Type) where
  pause : Duration := 0
  shutdown : Bool := false
  publish : Nat → Call σ

/-- What became of a batch: the scene that it came to, what is reported of it, how its last attempt
went if there was any, and the scene that it left behind. -/
structure Passage (σ : Type) where
  start : Scene σ
  report : Report
  last : Option (Except PublishError Duration)
  finish : Scene σ

namespace Dispatcher

section Passages

variable {σ : Type} (d : Dispatcher)

/-- How long a call takes if it succeeds, or its error. -/
def timed (call : Call σ) (s : Scene σ) : Except PublishError Duration :=
  (call s).1.map fun _ => (call s).2.now - s.now

/-- How the last call for a batch goes, if there is any. -/
def lastAttempt (publish : Nat → Call σ) (s : Scene σ) : Option (Except PublishError Duration) :=
  (d.callScenes publish s).zipIdx.getLast?.map fun entry => timed (publish entry.2) entry.1

/-- What becomes of a batch in a scene. -/
def passage (publish : Nat → Call σ) (s : Scene σ) : Passage σ where
  start := s
  report := (d.dispatch publish s).1
  last := d.lastAttempt publish s
  finish := (d.dispatch publish s).2

/-- The scene that a batch comes to if the one before it left `s`. -/
def arrive (b : Batch σ) (s : Scene σ) : Scene σ :=
  if b.shutdown then d.shutdown (s.advance b.pause) else s.advance b.pause

/-- What becomes of some batches, the first of which comes after `s`. -/
def passages : List (Batch σ) → Scene σ → List (Passage σ)
  | [], _ => []
  | b :: bs, s =>
    let p := d.passage b.publish (d.arrive b s)
    p :: passages bs p.finish

@[simp] theorem circuit_arrive (b : Batch σ) (s : Scene σ) :
    (d.arrive b s).circuit = s.circuit := by
  rw [arrive, shutdown]
  split
  · split <;> rfl
  · rfl

end Passages

/-- What a circuit is told of an attempt: whether it was too slow, if it went well at all. -/
def verdict (config : BreakerConfig) : Except PublishError Duration → Option Bool
  | .ok elapsed => some (tooSlow config elapsed)
  | .error _ => none

/-- What is reported of a batch whose last attempt got a verdict, or that was not attempted. -/
def outcomeOf : Option (Option Bool) → Outcome
  | none => .rejected
  | some none => .failed
  | some (some _) => .published

/-- The circuit `c` after a batch that came at `came` and was done with at `went`. -/
def circuitAfter (config : BreakerConfig) (c : Circuit) (came went : Instant) :
    Option (Option Bool) → Circuit
  | none => c
  | some v => (c.step config (.enter came)).record config went (v == some false)

section Spec

variable {σ : Type} (d : Dispatcher) (publish : Nat → Call σ)

theorem lastAttempt_attempt (left made : Nat) (s : Scene σ) :
    (((d.attemptScenes publish left made s).zipIdx made).getLast?.map fun entry =>
      timed (publish entry.2) entry.1) = some (d.attempt publish left made s).1.1 := by
  fun_induction attempt d publish left made s with
  | case1 left made s s' h =>
    rw [attemptScenes.eq_def]
    simp [h, timed, Except.map]
  | case2 made s e s' h =>
    rw [attemptScenes.eq_def]
    simp [h, timed, Except.map]
  | case3 made s e s' h left hs =>
    rw [attemptScenes.eq_def]
    simp [h, hs, timed, Except.map]
  | case4 made s e s' h left hs ih =>
    obtain ⟨entry, he, hr⟩ := Option.map_eq_some_iff.1 ih
    rw [attemptScenes.eq_def]
    simp [h, hs, List.getLast?_cons, he, hr]

variable {d publish} {s : Scene σ} {config : BreakerConfig} (hb : d.breaker = some config)
include hb

theorem lastAttempt_of_enter?_eq_none (h : s.circuit.enter? config s.now = none) :
    d.lastAttempt publish s = none := by
  simp only [lastAttempt, callScenes, hb, h, List.zipIdx_nil, List.getLast?_nil, Option.map_none]

theorem lastAttempt_of_enter?_eq_some {c : Circuit} (h : s.circuit.enter? config s.now = some c) :
    d.lastAttempt publish s = some
      (d.attempt publish d.retries 0 (s.step d.name config (.enter s.now))).1.1 := by
  simp only [lastAttempt, callScenes, hb, h]
  exact lastAttempt_attempt d publish d.retries 0 _

theorem isSome_lastAttempt :
    (d.lastAttempt publish s).isSome = (s.circuit.enter? config s.now).isSome := by
  cases h : s.circuit.enter? config s.now with
  | none => rw [lastAttempt_of_enter?_eq_none hb h, Option.isSome_none, Option.isSome_none]
  | some c => rw [lastAttempt_of_enter?_eq_some hb h, Option.isSome_some, Option.isSome_some]

/-- The outcome of a batch is that of its last attempt. -/
theorem outcome_dispatch : (d.dispatch publish s).1.outcome =
    outcomeOf ((d.lastAttempt publish s).map (verdict config)) := by
  cases h : s.circuit.enter? config s.now with
  | none =>
    rw [lastAttempt_of_enter?_eq_none hb h, dispatch_of_enter?_eq_none publish hb h]
    rfl
  | some c =>
    rw [lastAttempt_of_enter?_eq_some hb h, dispatch_of_enter?_eq_some publish hb h]
    cases hr : (d.attempt publish d.retries 0 (s.step d.name config (.enter s.now))).1.1 with
    | ok elapsed => simp [hr, conclude, verdict, outcomeOf]
    | error e => simp [hr, conclude, verdict, outcomeOf]

omit hb in
theorem circuit_attempt (hp : ∀ i, (publish i).Plain) (left made : Nat) (s : Scene σ) :
    (d.attempt publish left made s).2.circuit = s.circuit := by
  have called (i : Nat) (u : Scene σ) {result : Except PublishError Unit} {u' : Scene σ}
      (h : u.circuit = s.circuit) (hc : publish i u = (result, u')) : u'.circuit = s.circuit := by
    have hu := hp i u
    rw [hc] at hu
    exact hu.trans h
  have ha : Attempted (fun u => u.circuit = s.circuit) (fun u => u.circuit = s.circuit)
      (d.attempt publish left made s).1.1 (d.attempt publish left made s).2 :=
    attempt_spec (fun _ _ h => h) (fun i u _ _ h => called i u h) (fun i u _ h => called i u h) rfl
  cases hr : (d.attempt publish left made s).1.1 <;> rw [hr] at ha <;> exact ha

omit hb in
theorem circuit_observe (result : Except PublishError Duration) (s : Scene σ) :
    (d.observe config result s).circuit =
      s.circuit.record config s.now (verdict config result == some false) := by
  cases result with
  | error e => rfl
  | ok elapsed =>
    by_cases h : tooSlow config elapsed <;> simp [observe, verdict, h] <;> rfl

omit hb in
theorem now_observe (result : Except PublishError Duration) (s : Scene σ) :
    (d.observe config result s).now = s.now := by
  cases result with
  | error e => rfl
  | ok elapsed =>
    rw [observe]
    split <;> rfl

omit hb in
theorem conclude_snd (result : Except PublishError Duration) (calls : Nat) (s : Scene σ) :
    (d.conclude result calls s).2.circuit = s.circuit ∧
      (d.conclude result calls s).2.now = s.now := by
  cases result <;> exact ⟨rfl, rfl⟩

/-- The circuit is told once of a batch, when it is done with. -/
theorem circuit_dispatch (hp : ∀ i, (publish i).Plain) :
    (d.dispatch publish s).2.circuit = circuitAfter config s.circuit s.now
      (d.dispatch publish s).2.now ((d.lastAttempt publish s).map (verdict config)) := by
  cases h : s.circuit.enter? config s.now with
  | none =>
    rw [lastAttempt_of_enter?_eq_none hb h, dispatch_of_enter?_eq_none publish hb h]
    rfl
  | some c =>
    rw [lastAttempt_of_enter?_eq_some hb h, dispatch_of_enter?_eq_some publish hb h,
      (conclude_snd ..).1, (conclude_snd ..).2, circuit_observe, now_observe, circuit_attempt hp]
    rfl

end Spec

end Dispatcher

namespace Passage

variable {σ τ : Type}

/-- Two batches came at the same time and, if both were attempted, they were done with at the same
time and their last attempts got the same verdict. -/
structure Alike (config : BreakerConfig) (p : Passage σ) (q : Passage τ) : Prop where
  came : p.start.now = q.start.now
  went : p.last.isSome → q.last.isSome → p.finish.now = q.finish.now ∧
    p.last.map (Dispatcher.verdict config) = q.last.map (Dispatcher.verdict config)

theorem alike_iff {config : BreakerConfig} {p : Passage σ} {q : Passage τ} :
    p.Alike config q ↔ p.start.now = q.start.now ∧
      (p.last.isSome → q.last.isSome → p.finish.now = q.finish.now ∧
        p.last.map (Dispatcher.verdict config) = q.last.map (Dispatcher.verdict config)) :=
  ⟨fun h => ⟨h.came, h.went⟩, fun h => ⟨h.1, h.2⟩⟩

instance (config : BreakerConfig) (p : Passage σ) (q : Passage τ) : Decidable (p.Alike config q) :=
  decidable_of_iff' _ alike_iff

end Passage

namespace Dispatcher

variable {σ τ : Type} {d : Dispatcher} {d' : Dispatcher} {config : BreakerConfig}

/-- A circuit that is as another when a batch comes is so when the batch is done with. -/
theorem passage_of_alike (hb : d.breaker = some config) (hb' : d'.breaker = some config)
    {publish : Nat → Call σ} {publish' : Nat → Call τ} (hp : ∀ i, (publish i).Plain)
    (hp' : ∀ i, (publish' i).Plain) {s : Scene σ} {s' : Scene τ} (hc : s.circuit = s'.circuit)
    (h : (d.passage publish s).Alike config (d'.passage publish' s')) :
    (d.passage publish s).report.outcome = (d'.passage publish' s').report.outcome ∧
      (d.passage publish s).finish.circuit = (d'.passage publish' s').finish.circuit := by
  obtain ⟨came, went⟩ := h
  simp only [passage] at came went ⊢
  have he : (d.lastAttempt publish s).isSome = (d'.lastAttempt publish' s').isSome := by
    rw [isSome_lastAttempt hb, isSome_lastAttempt hb', hc, came]
  rw [outcome_dispatch hb, outcome_dispatch hb', circuit_dispatch hb hp, circuit_dispatch hb' hp',
    hc, came]
  -- circuits that are equal let both batches in or neither, and only those let in ended together
  cases hx : (d.lastAttempt publish s).isSome with
  | false =>
    have hn := Option.not_isSome_iff_eq_none.1 (Bool.not_eq_true _ ▸ hx)
    have hn' := Option.not_isSome_iff_eq_none.1 (Bool.not_eq_true _ ▸ he.symm.trans hx)
    rw [hn, hn']
    exact ⟨rfl, rfl⟩
  | true =>
    obtain ⟨hw, hv⟩ := went hx (he.symm.trans hx)
    rw [hw, hv]
    exact ⟨rfl, rfl⟩

/-- Dispatchers with the same breaker make the same of batches whose last attempts go alike, and
their circuits stay the same, however many attempts either of them makes. -/
theorem outcomes_eq_of_alike (hb : d.breaker = some config) (hb' : d'.breaker = some config)
    {bs : List (Batch σ)} {bs' : List (Batch τ)} (hp : ∀ b ∈ bs, ∀ i, (b.publish i).Plain)
    (hp' : ∀ b ∈ bs', ∀ i, (b.publish i).Plain) {s : Scene σ} {s' : Scene τ}
    (hc : s.circuit = s'.circuit)
    (h : List.Forall₂ (Passage.Alike config) (d.passages bs s) (d'.passages bs' s')) :
    List.Forall₂ (fun p q => p.report.outcome = q.report.outcome ∧
      p.finish.circuit = q.finish.circuit) (d.passages bs s) (d'.passages bs' s') := by
  -- the runs are equally long; from batch to batch it carries over that the circuits are equal
  induction bs generalizing bs' s s' with
  | nil =>
    cases bs' with
    | nil => exact .nil
    | cons b' bs' => cases h
  | cons b bs ih =>
    cases bs' with
    | nil => cases h
    | cons b' bs' =>
      obtain ⟨hfirst, hrest⟩ := List.forall₂_cons.1 h
      have ha : (d.arrive b s).circuit = (d'.arrive b' s').circuit := by
        rw [circuit_arrive, circuit_arrive, hc]
      have first := passage_of_alike hb hb' (hp b List.mem_cons_self) (hp' b' List.mem_cons_self)
        ha hfirst
      exact .cons first (ih (fun x hx => hp x (List.mem_cons_of_mem b hx))
        (fun x hx => hp' x (List.mem_cons_of_mem b' hx)) first.2 hrest)

private def brisk : BreakerConfig where
  successThreshold := 1
  failureThreshold := 2
  connectWait := 5
  requestTimeout := 3

private def after (took : Duration) (result : Except PublishError Unit) : Call Unit :=
  fun s => (result, s.advance took)

private def down : Except PublishError Unit := .error (.other "down")

-- three attempts that fail, one before an attempt that is too slow, none, one before the probe
private def stubborn : List (Batch Unit) :=
  [{ publish := fun i => after (i + 2) down },
    { publish := fun i => if i = 0 then after 1 down else after 4 (.ok ()) },
    { publish := fun _ => after 0 down },
    { pause := 5, publish := fun i => if i = 0 then after 0 down else after 2 (.ok ()) }]

private def lenient : List (Batch Unit) :=
  [{ publish := fun _ => after 9 down }, { publish := fun _ => after 5 (.ok ()) },
    { publish := fun _ => after 0 down }, { pause := 5, publish := fun _ => after 2 (.ok ()) }]

theorem outcomes_eq_with_and_without_retries :
    let d := ofConfig "retrying" { attempts := 2 } brisk
    let d' := ofConfig "single" { enabled := false } brisk
    let s : Scene Unit := { world := () }
    List.Forall₂ (Passage.Alike brisk) (d.passages stubborn s) (d'.passages lenient s) ∧
      List.Forall₂ (fun p q => p.report.outcome = q.report.outcome ∧
        p.finish.circuit = q.finish.circuit) (d.passages stubborn s) (d'.passages lenient s) ∧
      (d.passages stubborn s).map (·.report) =
        [⟨.failed, 3⟩, ⟨.published, 2⟩, ⟨.rejected, 0⟩, ⟨.published, 2⟩] ∧
      (d'.passages lenient s).map (·.report.calls) = [1, 1, 0, 1] := by
  intro d d' s
  have hp : ∀ b ∈ stubborn, ∀ i, (b.publish i).Plain := by
    intro b hb i
    fin_cases hb
    · exact fun _ => rfl
    · change Call.Plain (if i = 0 then _ else _)
      split <;> exact fun _ => rfl
    · exact fun _ => rfl
    · change Call.Plain (if i = 0 then _ else _)
      split <;> exact fun _ => rfl
  have hp' : ∀ b ∈ lenient, ∀ i, (b.publish i).Plain := by
    intro b hb i
    fin_cases hb <;> exact fun _ => rfl
  have h : List.Forall₂ (Passage.Alike brisk) (d.passages stubborn s) (d'.passages lenient s) := by
    decide +kernel
  exact ⟨h, outcomes_eq_of_alike rfl rfl hp hp' rfl h, by decide +kernel, by decide +kernel⟩

end Dispatcher

end Telemetry
