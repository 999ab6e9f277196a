import Telemetry.Client.Buffered
/-!
# Recording clients

A client that publishes nothing but keeps all that was sent, one list for each flush.
-/
namespace Telemetry

/-- What was sent since the last flush and before it, and how often the client was shut down. -/
structure Recorder where
  pending : Array Snapshot := #[]
  flushes : Array (List Snapshot) := #[]
  shutdowns : Nat := 0

namespace Recorder

def send (r : Recorder) (s : Snapshot) : Recorder :=
  { r with pending := r.pending.push s }

def flush (r : Recorder) : Recorder :=
  { r with pending := #[], flushes := r.flushes.push r.pending.toList }

def shutdown (r : Recorder) : Recorder :=
  { r with shutdowns := r.shutdowns + 1 }

instance : BufferedClient Recorder where
  send r s := (r.send s, [])
  flush _ r := (r.flush, [])
  shutdown r := (r.shutdown, [])

end Recorder

end Telemetry
