import Telemetry.Event
import Telemetry.Tags
/-!
# Configuration of process tags

The tags of a process from its settings and the name of its host, of which only the part before
the first dot is used.
-/
namespace Telemetry

structure ProcessConfig where
  env : Option String := none
  appName : Option String := none
  region : Option String := none
  cluster : Option String := none
  useHostname : Bool := true
deriving DecidableEq, Repr

/-- The longest host name that a system can report is shorter than this. -/
def hostnameCapacity : Nat := 255

/-- The part of a host name before its first dot, without white space around it. -/
def shortHostname? (name : String) : Option String :=
  let short := Text.trimChars (name.toList.takeWhile (· != '.'))
  if short.isEmpty then none else some (String.ofList short)

/-- The short name of the host from what the system reports, which ends at the first zero byte;
nothing is reported if the system has no name to give. -/
def hostnameTag (reported : Option (List UInt8)) : Option String × List Event :=
  match reported with
  | none => (none, [.hostnameUnresolved])
  | some bytes =>
    if hostnameCapacity ≤ bytes.length then (none, [.hostnameUnresolved])
    else match String.fromUTF8? ⟨(bytes.takeWhile (· != 0)).toArray⟩ with
      | some name => (shortHostname? name, [])
      | none => (none, [.hostnameNotText])

/-- The tags of a process on a host with the reported name, and what is to be reported. -/
def ProcessConfig.tags (c : ProcessConfig) (reported : Option (List UInt8)) :
    Tags × List Event :=
  let (hostname, events) := if c.useHostname then hostnameTag reported else (none, [])
  ({ env := c.env, appName := c.appName, region := c.region, cluster := c.cluster, hostname },
    events)

end Telemetry
