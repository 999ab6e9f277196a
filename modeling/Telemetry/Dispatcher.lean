import Telemetry.Circuit
import Telemetry.Publish.Error
/-!
# Dispatching batches

Every publish call goes through a dispatcher, which repeats calls that fail and, guarded by a
circuit, leaves a dead backend alone. The circuit sees one outcome for each batch, that of the last
attempt. A publish call may itself do anything to the scene it is made in: let time pass, dispatch
again, or shut the dispatcher down.
-/
namespace Telemetry

/-- How the batches of one publisher are dispatched: retries after the first attempt, and the
settings of the circuit if there is one. -/
structure Dispatcher where
  name : String
  retries : Nat
  breaker : Option BreakerConfig

/-- What a dispatch works on: the steady clock, the circuit with all that happened to it, whether
the dispatcher was shut down, the events so far, and whatever else publish calls change. -/
structure Scene (σ : Type) where
  world : σ
  now : Instant := 0
  circuit : Circuit := .closed 0
  steps : List Circuit.Step := []
  stopped : Bool := false
  events : List Event := []

inductive Outcome where
  | published | failed | rejected
deriving DecidableEq, Repr

/-- What became of a batch, and how many publish calls were made for it. -/
structure Report where
  outcome : Outcome
  calls : Nat
deriving DecidableEq, Repr

/-- One publish call in a scene. -/
abbrev Call (σ : Type) := Scene σ → Except PublishError Unit × Scene σ

namespace Scene

variable {σ : Type}

def log (s : Scene σ) (events : List Event) : Scene σ :=
  { s with events := s.events ++ events }

def step (s : Scene σ) (publisher : String) (config : BreakerConfig) (step : Circuit.Step) :
    Scene σ :=
  let circuit := s.circuit.step config step
  { s.log (s.circuit.changeEvents publisher circuit) with circuit, steps := s.steps ++ [step] }

def advance (s : Scene σ) (d : Duration) : Scene σ :=
  { s with now := s.now + d }

end Scene

namespace Dispatcher

variable {σ : Type}

def ofConfig (name : String) (retry : RetryConfig) (breaker : BreakerConfig) : Dispatcher where
  name := name
  retries := if retry.enabled then retry.attempts else 0
  breaker := if breaker.enabled then some breaker else none

/-- Ends all waiting for retries, now and later. -/
def shutdown (d : Dispatcher) (s : Scene σ) : Scene σ :=
  if s.stopped then s else { s.log [.dispatcherStopped d.name] with stopped := true }

/-- Calls until a call succeeds, the retries are used up, or the dispatcher is found shut down
after a call. `made` calls were made before. The answer is how long the successful call took, or
the last error, and the number of calls. Of the wait for a retry there is only the question how it
ends, which is asked once, whether there is time to wait or none: the wait takes no time here, and a
shutdown in the midst of it is one at the end of the call. -/
def attempt (d : Dispatcher) (publish : Nat → Call σ) :
    (left made : Nat) → Scene σ → (Except PublishError Duration × Nat) × Scene σ
  | left, made, s =>
    match publish made s with
    | (.ok (), s') => ((.ok (s'.now - s.now), made + 1), s')
    | (.error e, s') =>
      match left with
      | 0 => ((.error e, made + 1), s')
      | left + 1 =>
        if s'.stopped then
          ((.error e, made + 1), s'.log [.retriesAbandoned d.name e.message])
        else
          attempt d publish left (made + 1)
            (s'.log [.retrying d.name (made + 1) d.retries e.message])

def tooSlow (config : BreakerConfig) (elapsed : Duration) : Bool :=
  config.requestTimeout != 0 && config.requestTimeout < elapsed

/-- Tells the circuit what became of the last attempt; one that was too slow is a failure to it. -/
def observe (d : Dispatcher) (config : BreakerConfig) (result : Except PublishError Duration)
    (s : Scene σ) : Scene σ :=
  match result with
  | .ok elapsed =>
    if tooSlow config elapsed then
      (s.log [.callTooSlow d.name]).step d.name config (.record s.now false)
    else s.step d.name config (.record s.now true)
  | .error _ => s.step d.name config (.record s.now false)

/-- What is reported of a batch after its last attempt. -/
def conclude (d : Dispatcher) (result : Except PublishError Duration) (calls : Nat)
    (s : Scene σ) : Report × Scene σ :=
  match result with
  | .ok _ => (⟨.published, calls⟩, s)
  | .error e => (⟨.failed, calls⟩, s.log [.batchDropped d.name e.message])

/-- Dispatches one batch; `publish i` is the publish call number `i` for it. -/
def dispatch (d : Dispatcher) (publish : Nat → Call σ) (s : Scene σ) : Report × Scene σ :=
  match d.breaker with
  | none =>
    let ((result, calls), s) := d.attempt publish d.retries 0 s
    d.conclude result calls s
  | some config =>
    match s.circuit.enter? config s.now with
    | none => (⟨.rejected, 0⟩, s.log [.circuitRejected d.name])
    | some _ =>
      let s := s.step d.name config (.enter s.now)
      let ((result, calls), s) := d.attempt publish d.retries 0 s
      d.conclude result calls (d.observe config result s)

def circuit? (d : Dispatcher) (s : Scene σ) : Option Circuit :=
  d.breaker.map fun _ => s.circuit

end Dispatcher

end Telemetry
