import Telemetry.Filter.PatternSet
/-!
# Filters

A filter decides by its name whether a snapshot goes on to a publisher.
-/
namespace Telemetry

/-- A decision about snapshots. An allow-list passes what one of its patterns fits, a block-list
what none of them fits, and a chain what all its members pass. -/
inductive Filter where
  | allow (patterns : Filter.PatternSet)
  | block (patterns : Filter.PatternSet)
  | chain (filters : List Filter)

namespace Filter

mutual

def passes : Filter → Snapshot → Bool
  | allow patterns, s => patterns.holds s
  | block patterns, s => !patterns.holds s
  | chain filters, s => passesAll filters s

def passesAll : List Filter → Snapshot → Bool
  | [], _ => true
  | f :: fs, s => f.passes s && passesAll fs s

end

theorem passesAll_eq_all (fs : List Filter) (s : Snapshot) :
    passesAll fs s = fs.all (·.passes s) := by
  induction fs with
  | nil => simp [passesAll]
  | cons f fs ih => simp [passesAll, ih]

end Filter

end Telemetry
