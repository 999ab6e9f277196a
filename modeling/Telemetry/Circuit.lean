import Telemetry.Config.Publisher
/-!
# Circuits

The state by which calls to a failing backend are held back. A closed circuit lets calls through
and counts failures in a row; an open one lets none through until its wait is over; a half-open one
lets calls through and counts successes in a row.
-/
namespace Telemetry

inductive Circuit where
  | closed (failures : Nat)
  | opened (since : Instant)
  | halfOpen (successes : Nat)
deriving DecidableEq, Repr

namespace Circuit

/-- The circuit in which a call at `now` is made, unless it is held back. A call that finds the
wait over makes the circuit half-open. -/
def enter? (config : BreakerConfig) (now : Instant) : Circuit → Option Circuit
  | opened since => if now - since < config.connectWait then none else some (halfOpen 0)
  | circuit => some circuit

/-- The circuit after the outcome of a call is known at `now`. The outcome of a call from before
the circuit opened changes nothing. -/
def record (config : BreakerConfig) (now : Instant) (success : Bool) : Circuit → Circuit
  | closed failures =>
    if success then closed 0
    else if config.failureThreshold ≤ failures + 1 then opened now
    else closed (failures + 1)
  | halfOpen successes =>
    if !success then opened now
    else if config.successThreshold ≤ successes + 1 then closed 0
    else halfOpen (successes + 1)
  | opened since => opened since

/-- Something that happens to a circuit: a call is made, or the outcome of a call is known. -/
inductive Step where
  | enter (now : Instant)
  | record (now : Instant) (success : Bool)
deriving DecidableEq, Repr

/-- The circuit after a step. A call that is held back changes nothing. -/
def step (config : BreakerConfig) (c : Circuit) : Step → Circuit
  | .enter now => (c.enter? config now).getD c
  | .record now success => c.record config now success

/-- The circuit after steps in order, from a fresh one. -/
def replay (config : BreakerConfig) (steps : List Step) : Circuit :=
  steps.foldl (step config) (closed 0)

/-- What is to be reported when a publisher's circuit changes. -/
def changeEvents (publisher : String) : Circuit → Circuit → List Event
  | opened _, halfOpen _ => [.circuitHalfOpen publisher]
  | closed _, opened _ => [.circuitOpened publisher]
  | halfOpen _, opened _ => [.circuitOpened publisher]
  | halfOpen _, closed _ => [.circuitClosed publisher]
  | _, _ => []

theorem enter?_eq_none_iff {config : BreakerConfig} {now : Instant} {c : Circuit} :
    c.enter? config now = none ↔ ∃ since, c = opened since ∧ now - since < config.connectWait := by
  cases c <;> simp [enter?]

@[simp] theorem replay_nil (config : BreakerConfig) : replay config [] = closed 0 := rfl

@[simp] theorem replay_append (config : BreakerConfig) (steps : List Step) (last : Step) :
    replay config (steps ++ [last]) = (replay config steps).step config last := by
  simp [replay]

@[simp] theorem record_opened (config : BreakerConfig) (now since : Instant) (success : Bool) :
    (opened since).record config now success = opened since := rfl

end Circuit

end Telemetry
