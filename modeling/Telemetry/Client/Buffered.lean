import Telemetry.Event
import Telemetry.Snapshot
/-!
# Buffered clients

What an agent hands its snapshots to: a client takes them one by one and passes them on when it is
flushed. Every operation also answers what is to be reported to its caller.
-/
namespace Telemetry

class BufferedClient (κ : Type) where
  send : κ → Snapshot → κ × List Event
  /-- Passes on, at a reading of the steady clock, what was sent so far. -/
  flush : Instant → κ → κ × List Event
  shutdown : κ → κ × List Event

def BufferedClient.sendAll {κ : Type} [BufferedClient κ] (client : κ) :
    List Snapshot → κ × List Event
  | [] => (client, [])
  | s :: ss =>
    let (client, first) := send client s
    let (client, later) := sendAll client ss
    (client, first ++ later)

end Telemetry
