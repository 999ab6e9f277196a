import Telemetry.Agent.Sources
import Telemetry.Config.Agent
import Telemetry.Event
/-!
# Collection

One pass over the sources of an agent: every provider is asked, every other metric is read once
unless it was not tracked lately, and every outside registry is copied. Reading a metric starts its
next window, except that counters keep growing if publishers take differences.
-/
namespace Telemetry

namespace AgentConfig

def resets (c : AgentConfig) (k : Kind) : Bool :=
  !k.isCounter || c.counterReset == .agent

def reads (c : AgentConfig) (now : WallTime) (m : Metric) : Bool :=
  !c.onlyRecent || m.updatedWithin now c.collectFrequency

def afterRead (c : AgentConfig) (m : Metric) : Metric :=
  if c.resets m.kind then m.reset else m

end AgentConfig

namespace Collection

/-- The snapshots of provided metrics in a cycle of a number. -/
def provided (cycle : Nat) (timestamp : Nat) (tags : Tags) (fleet : Fleet) :
    List (MetricRef × Provider) → List Snapshot × List Event
  | [] => ([], [])
  | (ref, provider) :: rest =>
    let (snapshots, events) := provided cycle timestamp tags fleet rest
    match fleet.get? ref with
    | none => (snapshots, events)
    | some m =>
      match provider cycle with
      | some value => (.ofMetric m value timestamp tags :: snapshots, events)
      | none => (snapshots, .valueMissing m.name :: events)

/-- The snapshots of metrics at some places, and the fleet after they were read. -/
def live (config : AgentConfig) (now : WallTime) (tags : Tags) :
    List MetricRef → Fleet → List Snapshot × Fleet × List Event
  | [], fleet => ([], fleet, [])
  | ref :: rest, fleet =>
    match fleet.get? ref with
    | none => live config now tags rest fleet
    | some m =>
      if config.reads now m then
        let (snapshots, fleet, events) :=
          live config now tags rest (fleet.modify ref config.afterRead)
        (.ofMetric m m.get now.seconds tags :: snapshots, fleet, events)
      else
        let (snapshots, fleet, events) := live config now tags rest fleet
        (snapshots, fleet, .notUpdatedRecently m.name :: events)

/-- All snapshots of a cycle of a number at `now`, and the fleet after it. -/
def all (config : AgentConfig) (sources : Sources) (cycle : Nat) (now : WallTime) (fleet : Fleet) :
    List Snapshot × Fleet × List Event :=
  let (given, missing) := provided cycle now.seconds sources.tags fleet sources.providers
  let (read, after, skipped) := live config now sources.tags (sources.live fleet) fleet
  let copied := sources.registries.flatMap fun registry =>
    (registry cycle).map (·.toSnapshot now.seconds sources.tags)
  (given ++ read ++ copied, after, missing ++ skipped)

end Collection

end Telemetry
