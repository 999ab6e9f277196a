import Telemetry.Dispatcher
/-!
# Scripted calls

Publish calls that are laid down beforehand: a call lets time pass, dispatches batches of its own
on the same dispatcher, shuts the dispatcher down, in any order, and then answers.
-/
namespace Telemetry

/-- A publish call that is laid down beforehand. A batch that it dispatches has scripted calls in
turn, one for each attempt. -/
inductive Script where
  | answer (result : Except PublishError Unit)
  | advance (d : Duration) (rest : Script)
  | dispatch (calls : Nat → Script) (rest : Script)
  | shutdown (rest : Script)

namespace Script

/-- What became of a nested batch, with the circuit and the state of the dispatcher right after. -/
structure Nested where
  report : Report
  circuit : Option Circuit
  stopped : Bool

/-- Makes a scripted call. The world of the scene lists nested batches, innermost first. -/
def run (d : Dispatcher) : Script → Call (List Nested)
  | answer result => fun s => (result, s)
  | advance t rest => fun s => run d rest (s.advance t)
  | dispatch calls rest => fun s =>
    let (report, s) := d.dispatch (fun i => run d (calls i)) s
    let nested : Nested := ⟨report, d.circuit? s, s.stopped⟩
    run d rest { s with world := s.world ++ [nested] }
  | shutdown rest => fun s => run d rest (d.shutdown s)

/-- The script of an attempt from a list of which the last stands for all that follow. -/
def ofList (first : Script) (more : List Script) (i : Nat) : Script :=
  (first :: more).getD (min i more.length) first

end Script

end Telemetry
