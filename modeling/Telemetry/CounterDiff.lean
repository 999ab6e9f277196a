import Telemetry.Assoc
import Telemetry.Snapshot
/-!
# Differences of counters

Counters grow; some receivers want the growth since the last time instead. The values last seen
are kept by labels, and every other kind of snapshot passes unchanged.
-/
namespace Telemetry

/-- The values last seen of counters, each label set once, in order of first sight. -/
structure CounterDiff where
  seen : List (Labels × Float) := []

namespace CounterDiff

def last (d : CounterDiff) (labels : Labels) : Float :=
  (Assoc.get? labels d.seen).getD 0

/-- A count is replaced by its difference to the value last seen, which it then becomes. -/
def apply (d : CounterDiff) (s : Snapshot) : Snapshot × CounterDiff :=
  if s.kind.isCounter then
    (s.withValue (s.value - d.last s.labels), ⟨Assoc.put s.labels s.value d.seen⟩)
  else (s, d)

def applyAll (d : CounterDiff) : List Snapshot → List Snapshot × CounterDiff
  | [] => ([], d)
  | s :: ss =>
    let (s, d) := d.apply s
    let (ss, d) := d.applyAll ss
    (s :: ss, d)

def size (d : CounterDiff) : Nat :=
  d.seen.length

theorem last_apply (d : CounterDiff) (s : Snapshot) (labels : Labels) (h : s.kind.isCounter) :
    (d.apply s).2.last labels = if s.labels = labels then s.value else d.last labels := by
  simp only [apply, h, if_true, last, Assoc.get?_put]
  split <;> rfl

end CounterDiff

end Telemetry
