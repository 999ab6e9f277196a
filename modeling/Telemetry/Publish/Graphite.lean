import Telemetry.Config.Publisher
import Telemetry.Decimal.Fixed
import Telemetry.Publish.Error
/-!
# Publishing to Graphite

A publisher that writes each batch as plain text over a new connection, one line for each snapshot:
the dotted path, the value with two places and the time.
-/
namespace Telemetry

/-- Why there is no connection. -/
inductive NetworkError where
  | unreachable
  | refused
  | zeroInHost
  | noAddress (host : String)
deriving DecidableEq, Repr

def NetworkError.message : NetworkError → String
  | unreachable => "Network is unreachable (os error 101)"
  | refused => "Connection refused (os error 111)"
  | zeroInHost => "file name contained an unexpected NUL byte"
  | noAddress host => "no address found for '" ++ host ++ "'"

/-- What comes of connecting to a port of a host. -/
abbrev Network := (host : String) → (port : Nat) → Except NetworkError Unit

/-- The network of a machine that is connected to nothing. -/
def Network.none : Network := fun _ _ => .error .unreachable

structure GraphitePublisher where
  config : PublisherConfig
  port : Nat

namespace GraphitePublisher

def defaultPort : Nat := 2003

def ofConfig [Regex.Engine] (config : PublisherConfig) : Except ConfigError GraphitePublisher := do
  config.validate
  config.expectKind .graphite
  if Text.isBlank config.host then throw .blankHost
  .ok { config, port := config.port.getD defaultPort }

/-- The path of a snapshot: the tags that are not blank, then the full name. -/
def path (tags : Tags) (s : Snapshot) : String :=
  Text.joinWith '.' (tags.values ++ [s.fullName])

def line (tags : Tags) (s : Snapshot) : String :=
  path tags s ++ " " ++ Decimal.fixed 2 s.value ++ " " ++ Nat.repr s.timestamp ++ "\n"

/-- The lines of a batch; tags that are configured take the place of those of the snapshots. -/
def lines (p : GraphitePublisher) (batch : List Snapshot) : List String :=
  batch.map fun s => line (p.config.tags.getD s.tags) s

/-- Connects to the configured host; a name that holds a zero character cannot be looked up. -/
def connect (p : GraphitePublisher) (network : Network) : Except NetworkError Unit :=
  if p.config.host.toList.contains '\x00' then .error .zeroInHost
  else network p.config.host p.port

/-- Writes a batch. The answer holds the text that was written. -/
def publish (p : GraphitePublisher) (network : Network) (batch : List Snapshot) :
    Except PublishError String × List Event :=
  let sending := Event.sendingBatch p.config.name p.config.host batch.length
  match p.connect network with
  | .ok () =>
    let lines := p.lines batch
    (.ok (String.join lines),
      sending :: lines.map fun l => .lineWritten p.config.name (Text.trimEnd l))
  | .error e =>
    (.error (.io e.message), [sending, .sendingFailed p.config.name e.message])

end GraphitePublisher

end Telemetry
