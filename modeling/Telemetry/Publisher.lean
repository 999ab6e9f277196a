import Telemetry.Publish.Graphite
import Telemetry.Publish.Memory
import Telemetry.Publish.Prometheus
/-!
# Publishers

A publisher hands batches of snapshots to a backend of one of three kinds.
-/
namespace Telemetry

/-- A publisher with its state. One for Graphite works on a network and keeps what it has written
there. -/
inductive Publisher where
  | memory (p : MemoryPublisher)
  | prometheus (p : PrometheusPublisher)
  | graphite (p : GraphitePublisher) (network : Network) (written : List String)

namespace Publisher

def config : Publisher → PublisherConfig
  | memory p => p.config
  | prometheus p => p.config
  | graphite p _ _ => p.config

/-- A publisher of the configured kind. -/
def ofConfig [Regex.Engine] (network : Network) (config : PublisherConfig) :
    Except ConfigError Publisher :=
  match config.kind with
  | .memory => memory <$> MemoryPublisher.ofConfig config
  | .prometheus => prometheus <$> PrometheusPublisher.ofConfig config
  | .graphite => (graphite · network []) <$> GraphitePublisher.ofConfig config

def publish (p : Publisher) (batch : List Snapshot) :
    Except PublishError Unit × Publisher × List Event :=
  match p with
  | memory p =>
    let (result, p) := p.publish batch
    (result, memory p, [])
  | prometheus p =>
    let (p, events) := p.publish batch
    (.ok (), prometheus p, events)
  | graphite p network written =>
    match p.publish network batch with
    | (.ok text, events) => (.ok (), graphite p network (written ++ [text]), events)
    | (.error e, events) => (.error e, graphite p network written, events)

/-- Makes a publisher to memory fail from now on, or stops it failing. -/
def setFailing (failing : Bool) : Publisher → Publisher
  | memory p => memory { p with failing }
  | p => p

/-- Forgets what was published, as far as it is kept. -/
def clear : Publisher → Publisher
  | memory p => memory p.clear
  | prometheus p => prometheus p.clear
  | graphite p network _ => graphite p network []

def shutdown : Publisher → Publisher
  | memory p => memory p.shutdown
  | p => p

@[simp] theorem config_shutdown (p : Publisher) : p.shutdown.config = p.config := by
  cases p <;> rfl

end Publisher

end Telemetry
