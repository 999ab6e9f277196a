import Telemetry.Agent.Collection
import Telemetry.Agent.Schedule
import Telemetry.Client
/-!
# Agents

An agent collects its sources in cycles and hands what it collects to a client, which it flushes at
the end of every cycle. It may run cycles on a schedule until it is stopped.
-/
namespace Telemetry

structure Agent (κ : Type) where
  config : AgentConfig
  sources : Sources
  client : κ
  /-- The number of cycles so far. -/
  cycles : Nat := 0

namespace Agent

/-- An agent with a client of its own for some publishers that has no workers yet, unless the
configuration of the agent or of a publisher is refused; with what is to be reported. -/
def ofPublishers [Regex.Engine] (config : AgentConfig) (sources : Sources)
    (publishers : List Publisher) : List Event × Except ConfigError (Agent Client) :=
  let (events, client) := Client.ofPublishers config publishers
  (events, client.map fun client => { config, sources, client })

/-- An agent with a client of its own for some publishers, and the workers of the client; with what
is to be reported. -/
def build [Regex.Engine] (m : Machine) (config : AgentConfig) (sources : Sources)
    (publishers : List Publisher) : List Event × Made (Agent Client) :=
  let (events, client) := Client.launch m config publishers
  (events, client.map fun client => { config, sources, client })

variable {κ : Type}

/-- An agent that uses a given client, unless its configuration is refused. Publishers that were
registered as well are ignored. -/
def ofClient (config : AgentConfig) (sources : Sources) (client : κ) (publishers : Nat) :
    List Event × Except ConfigError (Agent κ) :=
  match config.validate with
  | .error e => ([], .error e)
  | .ok () =>
    (if publishers = 0 then [] else [.publishersIgnored publishers],
      .ok { config, sources, client })

variable [BufferedClient κ]

/-- Collects the sources at `now`, and has the client flushed at the reading `clock` of the steady
clock. The answer is the number of snapshots sent. -/
def cycle (a : Agent κ) (now : WallTime) (clock : Instant) (fleet : Fleet) :
    Nat × Agent κ × Fleet × List Event :=
  let (snapshots, fleet, collecting) := Collection.all a.config a.sources a.cycles now fleet
  let (client, sending) := BufferedClient.sendAll a.client snapshots
  let (client, flushing) := BufferedClient.flush clock client
  (snapshots.length, { a with client, cycles := a.cycles + 1 }, fleet,
    collecting ++ .collected snapshots.length :: sending ++ flushing)

/-- One cycle in each of some turns; `wall` tells the wall clock from the steady one. -/
def cycleAll (wall : Instant → WallTime) :
    List Schedule.Turn → Agent κ → Fleet → Agent κ × Fleet
  | [], a, fleet => (a, fleet)
  | t :: ts, a, fleet =>
    let (_, a, fleet, _) := a.cycle (wall t.began) t.began fleet
    cycleAll wall ts a fleet

/-- Runs the agent on its schedule from the reading `start` of the steady clock, one cycle for each
pace, and stops it, which shuts the client down. The agent is never stopped before its first
cycle. -/
def run (a : Agent κ) (wall : Instant → WallTime) (start : Instant) (first : Schedule.Pace)
    (later : List Schedule.Pace) (fleet : Fleet) : Agent κ × Fleet × List Event :=
  let (turns, alive) := Schedule.turns a.config.collectFrequency start (first :: later)
  let (a, fleet) := cycleAll wall turns a fleet
  let (client, closing) := BufferedClient.shutdown a.client
  ({ a with client }, fleet,
    .agentStopping :: (if alive then [] else [.schedulerDied]) ++ closing)

/-- The name of the thread that the cycles run on. -/
def schedulerName : String := "metrics-agent-scheduler"

/-- Starts the agent, runs it and stops it; with what is to be reported. There is no agent to run
if the machine does not start its thread. -/
def serve (m : Machine) (a : Agent κ) (wall : Instant → WallTime) (start : Instant)
    (first : Schedule.Pace) (later : List Schedule.Pace) (fleet : Fleet) :
    List Event × Except AgentError (Agent κ × Fleet) :=
  match m.spawn? schedulerName with
  | some e => ([.agentStarting], .error e)
  | none =>
    let (a, fleet, events) := a.run wall start first later fleet
    (.agentStarting :: events, .ok (a, fleet))

end Agent

end Telemetry
