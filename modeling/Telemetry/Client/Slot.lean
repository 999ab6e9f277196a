import Telemetry.Chunks
import Telemetry.Config.Agent
import Telemetry.CounterDiff
import Telemetry.Dispatcher
import Telemetry.Publisher
/-!
# Publishers of a client

What a client keeps for one of its publishers: the publisher itself with the circuit of its
dispatcher, the filter that chooses its snapshots, and the counters it saw last if it is to receive
differences. Nothing here knows of another publisher.
-/
namespace Telemetry

structure Slot where
  publisher : Publisher
  filter : Filter
  diff : Option CounterDiff
  circuit : Circuit := .closed 0

namespace Slot

def config (s : Slot) : PublisherConfig :=
  s.publisher.config

def name (s : Slot) : String :=
  s.config.name

/-- The dispatcher that all batches of the publisher go through. -/
def dispatcher (s : Slot) : Dispatcher :=
  .ofConfig s.name s.config.retry s.config.breaker

def circuit? (s : Slot) : Option Circuit :=
  s.dispatcher.breaker.map fun _ => s.circuit

/-- A slot for a publisher, unless its configuration is refused; with what is to be reported. The
publisher receives differences of counters if it asks for them and nobody else resets counters. -/
def ofPublisher [Regex.Engine] (config : AgentConfig) (publisher : Publisher) :
    List Event × Except ConfigError Slot :=
  match publisher.config.validate with
  | .error e => ([], .error e)
  | .ok () =>
    let (filters, events) := publisher.config.filters
    let differs := publisher.config.resetCounters && config.counterReset == .publisher
    (events, .ok {
      publisher
      filter := .chain filters
      diff := if differs then some {} else none })

/-- The snapshots that the publisher is to receive out of some that were sent. -/
def select (s : Slot) (snapshots : List Snapshot) : List Snapshot × Slot :=
  let allowed := snapshots.filter s.filter.passes
  match s.diff with
  | none => (allowed, s)
  | some d =>
    let (changed, d) := d.applyAll allowed
    (changed, { s with diff := some d })

def batches (s : Slot) (selected : List Snapshot) : List (List Snapshot) :=
  chunks s.config.effectiveBatchSize selected

/-- One publish call of a batch. The dispatcher is shut down in the midst of the call whose number
is `interrupt`. Calls take no time here, and nobody else changes the publisher between two calls of
one dispatch, so a retry meets the publisher as the call before it left it. -/
def call (batch : List Snapshot) (interrupt : Option Nat) (number : Nat) : Call Publisher :=
  fun scene =>
    let (result, publisher, events) := scene.world.publish batch
    (result, { scene.log events with
      world := publisher, stopped := scene.stopped || interrupt == some number })

def dispatch (s : Slot) (now : Instant) (batch : List Snapshot) (interrupt : Option Nat) :
    Report × List Event × Slot :=
  let scene : Scene Publisher := { world := s.publisher, now, circuit := s.circuit }
  let (report, scene) := s.dispatcher.dispatch (call batch interrupt) scene
  (report, scene.events, { s with publisher := scene.world, circuit := scene.circuit })

def shutdown (s : Slot) : Slot :=
  { s with publisher := s.publisher.shutdown }

end Slot

end Telemetry
