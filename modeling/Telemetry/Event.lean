/-!
# Events

What the library reports about its own work. An event is a cause with its data; its level, its
message and its fields are functions of the cause.
-/
namespace Telemetry

/-- How much attention an event asks for. -/
inductive Level where
  | trace | debug | info | warn | error
deriving DecidableEq, Repr

def Level.text : Level → String
  | trace => "TRACE"
  | debug => "DEBUG"
  | info => "INFO"
  | warn => "WARN"
  | error => "ERROR"

/-- Something worth reporting. -/
inductive Event where
  | hostnameUnresolved
  | hostnameNotText
  | patternIgnored (pattern : String)
  | allowListUnusable (publisher : String)
  | circuitRejected (publisher : String)
  | circuitHalfOpen (publisher : String)
  | circuitOpened (publisher : String)
  | circuitClosed (publisher : String)
  | callTooSlow (publisher : String)
  | retrying (publisher : String) (attempt maxAttempts : Nat) (error : String)
  | retriesAbandoned (publisher error : String)
  | batchDropped (publisher error : String)
  | dispatcherStopped (publisher : String)
  | recordingSample (publisher metric : String)
  | batchRecorded (publisher : String) (size : Nat)
  | familyRetyped (before after : String)
  | sendingBatch (publisher host : String) (size : Nat)
  | lineWritten (publisher line : String)
  | sendingFailed (publisher error : String)
  | clientCreated (publishers workers : Nat)
  | submittingBatches (publisher : String) (received selected batchSize : Nat)
  | sentAfterShutdown (metric : String)
  | clientShutDown (dropped : Nat)
  | valueMissing (metric : String)
  | notUpdatedRecently (metric : String)
  | collected (snapshots : Nat)
  | publishersIgnored (count : Nat)
  | agentStarting
  | agentStopping
  | schedulerDied
deriving DecidableEq, Repr

namespace Event

def level : Event → Level
  | recordingSample .. | lineWritten .. | sentAfterShutdown _ | valueMissing _
  | notUpdatedRecently _ => .trace
  | circuitRejected _ | dispatcherStopped _ | batchRecorded .. | sendingBatch ..
  | clientCreated .. | submittingBatches .. | collected _ => .debug
  | circuitClosed _ | retrying .. | retriesAbandoned .. | clientShutDown _ | agentStarting
  | agentStopping => .info
  | hostnameUnresolved | hostnameNotText | patternIgnored _ | allowListUnusable _
  | circuitHalfOpen _ | circuitOpened _ | callTooSlow _ | batchDropped .. | familyRetyped ..
  | publishersIgnored _ | schedulerDied => .warn
  | sendingFailed .. => .error

def message : Event → String
  | hostnameUnresolved => "Failed to resolve hostname; leaving it out of tags."
  | hostnameNotText => "Hostname is not valid UTF-8; leaving it out of tags."
  | patternIgnored _ => "Ignoring malformed metric filter pattern."
  | allowListUnusable _ => "Allow-list has no usable patterns; no metrics will be published."
  | circuitRejected _ => "Circuit is open. Dropping metrics batch."
  | circuitHalfOpen publisher =>
    "Metric client '" ++ publisher ++ "' is half-open. Trying to send the next metrics batch."
  | circuitOpened publisher =>
    "Metric client '" ++ publisher ++
      "' is not responding. Opened circuit. Dropping next metrics batches..."
  | circuitClosed publisher =>
    "Metric client '" ++ publisher ++ "' is responding again. Closed circuit."
  | callTooSlow _ => "Publish call exceeded the request timeout."
  | retrying .. => "Publish attempt failed. Retrying."
  | retriesAbandoned .. => "Shutting down. Abandoning retries."
  | batchDropped .. => "Failed to publish metrics. Dropping batch."
  | dispatcherStopped _ => "Dispatcher shutting down."
  | recordingSample .. => "Recording sample."
  | batchRecorded .. => "Recorded metrics."
  | familyRetyped .. => "Metric family changed type. Dropping previous samples."
  | sendingBatch .. => "Sending metrics."
  | lineWritten .. => "Wrote metric."
  | sendingFailed .. => "Error sending metrics."
  | clientCreated .. => "Created metric client."
  | submittingBatches .. => "Submitting metrics batches."
  | sentAfterShutdown _ => "Client is shut down. Dropping snapshot."
  | clientShutDown _ => "Metric client shut down."
  | valueMissing _ => "Metric does not have a value. Not sending it."
  | notUpdatedRecently _ => "Metric was not updated recently. Not sending it."
  | collected _ => "Collected metrics."
  | publishersIgnored _ =>
    "Publishers were registered along with an explicit client. Ignoring them."
  | agentStarting => "Starting metric agent."
  | agentStopping => "Stopping metric agent."
  | schedulerDied => "Metric agent scheduler thread panicked."

/-- The named data of an event, as text. -/
def fields : Event → List (String × String)
  | hostnameUnresolved | hostnameNotText | agentStarting | agentStopping | schedulerDied => []
  | patternIgnored pattern => [("pattern", pattern)]
  | allowListUnusable publisher | circuitRejected publisher | circuitHalfOpen publisher
  | circuitOpened publisher | circuitClosed publisher | callTooSlow publisher
  | dispatcherStopped publisher => [("publisher", publisher)]
  | retrying publisher attempt maxAttempts error =>
    [("publisher", publisher), ("attempt", Nat.repr attempt),
      ("max_attempts", Nat.repr maxAttempts), ("error", error)]
  | retriesAbandoned publisher error | batchDropped publisher error
  | sendingFailed publisher error => [("publisher", publisher), ("error", error)]
  | recordingSample publisher metric => [("publisher", publisher), ("metric", metric)]
  | batchRecorded publisher size =>
    [("publisher", publisher), ("batch_len", Nat.repr size)]
  | familyRetyped before after => [("from", before), ("to", after)]
  | sendingBatch publisher host size =>
    [("publisher", publisher), ("host", host), ("batch_len", Nat.repr size)]
  | lineWritten publisher line => [("publisher", publisher), ("line", line)]
  | clientCreated publishers workers =>
    [("publishers", Nat.repr publishers), ("workers", Nat.repr workers)]
  | submittingBatches publisher received selected batchSize =>
    [("publisher", publisher), ("received", Nat.repr received),
      ("selected", Nat.repr selected), ("batch_size", Nat.repr batchSize)]
  | sentAfterShutdown metric | valueMissing metric | notUpdatedRecently metric =>
    [("metric", metric)]
  | clientShutDown dropped => [("dropped", Nat.repr dropped)]
  | collected snapshots => [("snapshots", Nat.repr snapshots)]
  | publishersIgnored count => [("publishers", Nat.repr count)]

end Event

end Telemetry
