import Telemetry.Config.Publisher
import Telemetry.Publish.Error
/-!
# Publishing to memory

A publisher that keeps every batch, and can be made to fail.
-/
namespace Telemetry

/-- The batches published, in order, and the number of calls, failed ones included. -/
structure MemoryPublisher where
  config : PublisherConfig
  batches : Array (List Snapshot) := #[]
  attempts : Nat := 0
  failing : Bool := false
  stopped : Bool := false

namespace MemoryPublisher

/-- A publisher of which only the name is given; no setting is checked. -/
def named (name : String) : MemoryPublisher :=
  { config := .named name .memory }

def ofConfig [Regex.Engine] (config : PublisherConfig) : Except ConfigError MemoryPublisher := do
  config.validate
  config.expectKind .memory
  .ok { config }

/-- Keeps a batch, unless the publisher is set to fail. -/
def publish (p : MemoryPublisher) (batch : List Snapshot) :
    Except PublishError Unit × MemoryPublisher :=
  let counted := { p with attempts := p.attempts + 1 }
  if p.failing then (.error (.other ("publisher '" ++ p.config.name ++ "' is set to fail")), counted)
  else (.ok (), { counted with batches := p.batches.push batch })

def clear (p : MemoryPublisher) : MemoryPublisher :=
  { p with batches := #[], attempts := 0 }

/-- Lets go of nothing, but remembers that it was asked to. -/
def shutdown (p : MemoryPublisher) : MemoryPublisher :=
  { p with stopped := true }

def snapshots (p : MemoryPublisher) : List Snapshot :=
  p.batches.toList.flatten

end MemoryPublisher

end Telemetry
