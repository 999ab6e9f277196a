import Telemetry.Text.Blank
/-!
# Kinds of publishers and faults of configurations

The kinds of backends that a publisher can be configured for, and the reasons for which a
configuration is refused, with their wording.
-/
namespace Telemetry

/-- The backend a publisher talks to. -/
inductive PublisherKind where
  | graphite | prometheus | memory
deriving DecidableEq, Repr, Inhabited

def PublisherKind.text : PublisherKind → String
  | graphite => "graphite"
  | prometheus => "prometheus"
  | memory => "memory"

/-- Why a configuration is refused. -/
inductive ConfigError where
  | blankName
  | noRetryAttempts
  | noSuccessThreshold
  | noFailureThreshold
  | noFrequency
  | noWorkers
  | blankHost
  | unknownKind (text : String)
  | kindMismatch (name : String) (expected actual : PublisherKind)
  | badPattern (pattern : String)
deriving DecidableEq, Repr

namespace ConfigError

/-- The setting that holds a value out of its range, and what it has to be. -/
def setting? : ConfigError → Option (String × String)
  | blankName => some ("name", "must not be blank")
  | noRetryAttempts => some ("retry.retry_attempts", "must be a positive number")
  | noSuccessThreshold => some ("circuit_breaker.success_threshold", "must be a positive number")
  | noFailureThreshold => some ("circuit_breaker.failure_threshold", "must be a positive number")
  | noFrequency => some ("collect_frequency", "must be non-zero")
  | noWorkers => some ("worker_threads", "must be a positive number")
  | blankHost => some ("host", "must not be blank")
  | _ => none

def message (e : ConfigError) : String :=
  match e with
  | unknownKind text =>
    "unknown publisher kind `" ++ text ++
      "` (expected `graphite`, `prometheus` or `memory`)"
  | kindMismatch name expected actual =>
    "publisher `" ++ name ++ "` is configured as `" ++ actual.text ++
      "` but was built as `" ++ expected.text ++ "`"
  | badPattern pattern => "invalid relabel pattern `" ++ pattern ++ "`"
  | e =>
    match e.setting? with
    | some (field, reason) => "invalid value for `" ++ field ++ "`: " ++ reason
    | none => ""

end ConfigError

/-- Reads the word for a kind; white space around it and the case of its letters do not matter. -/
def PublisherKind.parse (text : String) : Except ConfigError PublisherKind :=
  match Text.lowerAscii (Text.trim text) with
  | "graphite" => .ok .graphite
  | "prometheus" => .ok .prometheus
  | "memory" => .ok .memory
  | _ => .error (.unknownKind text)

end Telemetry
