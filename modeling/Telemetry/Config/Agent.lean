import Telemetry.Config.Error
import Telemetry.Time
/-!
# Configuration of agents
-/
namespace Telemetry

/-- Who turns growing counters into amounts per cycle. -/
inductive CounterReset where
  /-- Counters keep growing; publishers that ask for it receive differences. -/
  | publisher
  /-- The agent sets counters to zero when it reads them. -/
  | agent
deriving DecidableEq, Repr

structure AgentConfig where
  /-- The time from one collection cycle to the next. -/
  collectFrequency : Duration := .ofSeconds 60
  /-- Whether metrics not tracked within the last period are left out. -/
  onlyRecent : Bool := true
  counterReset : CounterReset := .publisher
  workers : Nat := 4
deriving DecidableEq, Repr

/-- Refuses cycles without any time between them and an agent without workers. -/
def AgentConfig.validate (c : AgentConfig) : Except ConfigError Unit :=
  if c.collectFrequency = 0 then .error .noFrequency
  else if c.workers = 0 then .error .noWorkers
  else .ok ()

end Telemetry
