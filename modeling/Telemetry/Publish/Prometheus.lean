import Telemetry.Config.Publisher
import Telemetry.Exposition.Registry
import Telemetry.Publish.Error
/-!
# Publishing to a Prometheus registry

A publisher that enters snapshots into a registry, to be read as a page of samples. Rules that
turn parts of names into labels come first.
-/
namespace Telemetry

structure PrometheusPublisher where
  config : PublisherConfig
  relabeler : Relabeler
  registry : Exposition.Registry := {}

namespace PrometheusPublisher

def ofConfig [Regex.Engine] (config : PublisherConfig) :
    Except ConfigError PrometheusPublisher := do
  config.validate
  config.expectKind .prometheus
  .ok { config, relabeler := ← config.relabeler }

def labelsOf (p : PrometheusPublisher) (s : Snapshot) : Labels :=
  (p.relabeler.apply s.labels).getD s.labels

def familyOf (p : PrometheusPublisher) (s : Snapshot) : String :=
  Exposition.familyName (p.config.tags.getD s.tags).appName (p.labelsOf s) s.kind

def record (p : PrometheusPublisher) (s : Snapshot) : PrometheusPublisher × List Event :=
  let name := p.familyOf s
  let kind := Exposition.FamilyKind.ofKind s.kind
  ({ p with registry :=
      p.registry.update name kind (Exposition.labelPairs (p.labelsOf s)) s.value },
    .recordingSample p.config.name name :: p.registry.updateEvents name kind)

def recordAll (p : PrometheusPublisher) : List Snapshot → PrometheusPublisher × List Event
  | [] => (p, [])
  | s :: ss =>
    let (p, first) := p.record s
    let (p, later) := p.recordAll ss
    (p, first ++ later)

def publish (p : PrometheusPublisher) (batch : List Snapshot) :
    PrometheusPublisher × List Event :=
  let (p, events) := p.recordAll batch
  (p, events ++ [.batchRecorded p.config.name batch.length])

def clear (p : PrometheusPublisher) : PrometheusPublisher :=
  { p with registry := {} }

end PrometheusPublisher

end Telemetry
