import Telemetry.Time
/-!
# Schedules

When the cycles of a running agent begin. Each is due one period after the one before it was due,
or at once if that has gone by when the one before ends: a cycle that takes too long delays the
next one, and periods that were missed are not made up for.
-/
namespace Telemetry

namespace Schedule

/-- How long after it was due a cycle begins, and how long it takes until the clock is read at its
end. -/
structure Pace where
  late : Duration := 0
  took : Duration := 0
deriving DecidableEq, Repr

structure Turn where
  due : Instant
  began : Instant
  ended : Instant
deriving DecidableEq, Repr

/-- A cycle that is due at some time, at a pace. -/
def turn (due : Instant) (pace : Pace) : Turn :=
  { due, began := due + pace.late, ended := due + pace.late + pace.took }

/-- When the next cycle is due, if the clock goes that far. -/
def next? (frequency : Duration) (t : Turn) : Option Instant :=
  (Instant.add? t.due frequency).map (max · t.ended)

/-- The cycles at some paces, the first due at a given time, and whether there could be more. There
cannot after a cycle whose successor is never due. -/
def turns (frequency : Duration) (due : Instant) : List Pace → List Turn × Bool
  | [] => ([], true)
  | pace :: paces =>
    let t := turn due pace
    match next? frequency t with
    | none => ([t], false)
    | some due =>
      let (later, alive) := turns frequency due paces
      (t :: later, alive)

end Schedule

end Telemetry
