import Telemetry.Config.Error
import Telemetry.Filter
import Telemetry.Relabel
/-!
# Configuration of publishers

What can be set for one publisher, what is set if nothing is said, and which settings are refused.
-/
namespace Telemetry

/-- How failed publish calls are repeated. -/
structure RetryConfig where
  enabled : Bool := true
  /-- The number of attempts after the first. -/
  attempts : Nat := 3
  wait : Duration := .ofSeconds 20
deriving DecidableEq, Repr

/-- When a backend that fails is left alone. -/
structure BreakerConfig where
  enabled : Bool := true
  /-- The successes in a row that close a half-open circuit. -/
  successThreshold : Nat := 3
  /-- The failures in a row that open a closed circuit. -/
  failureThreshold : Nat := 3
  /-- How long the circuit stays open. -/
  connectWait : Duration := .ofSeconds 1
  /-- Calls that take longer count as failures; zero is no limit. -/
  requestTimeout : Duration := .ofSeconds 1
deriving DecidableEq, Repr

structure PublisherConfig where
  name : String := ""
  kind : PublisherKind := .memory
  host : String := ""
  port : Option Nat := none
  /-- The most snapshots in one publish call; zero stands for the usual number. -/
  batchSize : Nat := 500
  socketTimeout : Duration := .ofSeconds 10
  /-- Tags that take the place of those of a snapshot. -/
  tags : Option Tags := none
  allowList : Option (List String) := none
  blockList : Option (List String) := none
  relabel : List Relabel.RuleConfig := []
  /-- Whether counters are sent as differences to what this publisher saw last. -/
  resetCounters : Bool := false
  retry : RetryConfig := {}
  breaker : BreakerConfig := {}
deriving DecidableEq, Repr

/-- A policy that makes no further attempt is refused. -/
def RetryConfig.validate (c : RetryConfig) : Except ConfigError Unit :=
  if c.attempts = 0 then .error .noRetryAttempts else .ok ()

/-- Thresholds of zero are refused. -/
def BreakerConfig.validate (c : BreakerConfig) : Except ConfigError Unit :=
  if c.successThreshold = 0 then .error .noSuccessThreshold
  else if c.failureThreshold = 0 then .error .noFailureThreshold
  else .ok ()

namespace PublisherConfig

def defaultBatchSize : Nat := 500

/-- The settings for a publisher of which only the name is given. -/
def named (name : String) (kind : PublisherKind) : PublisherConfig :=
  { name, kind }

def relabeler [Regex.Engine] (c : PublisherConfig) : Except ConfigError Relabeler :=
  match Relabeler.ofConfig c.relabel with
  | .ok r => .ok r
  | .error (_, rule) => .error (.badPattern rule.pattern)

/-- Refuses a blank name, a policy that is refused, and a rule that cannot be read, in this order. -/
def validate [Regex.Engine] (c : PublisherConfig) : Except ConfigError Unit := do
  if Text.isBlank c.name then throw .blankName
  c.retry.validate
  c.breaker.validate
  let _ ← c.relabeler

/-- Refuses a configuration for a publisher of another kind. -/
def expectKind (c : PublisherConfig) (expected : PublisherKind) : Except ConfigError Unit :=
  if c.kind = expected then .ok () else .error (.kindMismatch c.name expected c.kind)

def effectiveBatchSize (c : PublisherConfig) : Nat :=
  if c.batchSize = 0 then defaultBatchSize else c.batchSize

/-- The filters of the allow-list and the block-list, as far as there are such lists, and what is
to be reported about them. -/
def filters [Regex.Engine] (c : PublisherConfig) : List Filter × List Event :=
  let allow := c.allowList.map fun patterns =>
    let (ps, events) := Filter.PatternSet.ofList patterns
    (Filter.allow ps,
      (if patterns.all Text.isBlank then [Event.allowListUnusable c.name] else []) ++ events)
  let block := c.blockList.map fun patterns =>
    let (ps, events) := Filter.PatternSet.ofList patterns
    (Filter.block ps, events)
  let both := allow.toList ++ block.toList
  (both.map (·.1), both.flatMap (·.2))

theorem effectiveBatchSize_pos (c : PublisherConfig) : 0 < c.effectiveBatchSize := by
  rw [effectiveBatchSize]
  split
  · decide
  · omega

end PublisherConfig

end Telemetry
