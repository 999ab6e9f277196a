import Telemetry.Kind
/-!
# Accumulators

What a metric keeps of the values tracked since its last reset: their sum, an extreme, a sum with
a count, or the latest of them. Each kind starts from a state that reports zero.
-/
namespace Telemetry

/-- The running summary of tracked values. Extremes are absent until a value is tracked. The values
of a mean are counted without end: 64 bits are not filled by counting one at a time. -/
inductive Accumulator where
  | sum (total : Float)
  | least (value : Option Float)
  | greatest (value : Option Float)
  | mean (total : Float) (count : Nat)
  | latest (value : Float)

namespace Accumulator

/-- The state before any value. -/
def empty : Kind → Accumulator
  | .count => sum 0
  | .min => least none
  | .max => greatest none
  | .avg => mean 0 0
  | _ => latest 0

/-- Replaces an extreme by a value that beats it; `beats` is false between values that do not
compare. -/
def extreme (beats : Float → Float → Bool) (current : Option Float) (value : Float) :
    Option Float :=
  match current with
  | none => some value
  | some old => if beats value old then some value else some old

def track : Accumulator → Float → Accumulator
  | sum total, v => sum (total + v)
  | least current, v => least (extreme (fun a b => a < b) current v)
  | greatest current, v => greatest (extreme (fun a b => a > b) current v)
  | mean total count, v => mean (total + v) (count + 1)
  | latest _, v => latest v

/-- The number reported for the values so far; zero if there are none. -/
def get : Accumulator → Float
  | sum total => total
  | least current => current.getD 0
  | greatest current => current.getD 0
  | mean total count => if count = 0 then 0 else total / Float.ofNat count
  | latest v => v

/-- The empty state of the same shape. -/
def reset : Accumulator → Accumulator
  | sum _ => sum 0
  | least _ => least none
  | greatest _ => greatest none
  | mean _ _ => mean 0 0
  | latest _ => latest 0

/-- The shapes of accumulators agree when they differ in content only. -/
theorem reset_track (a : Accumulator) (v : Float) : (a.track v).reset = a.reset := by
  cases a <;> rfl

@[simp] theorem reset_empty (k : Kind) : (empty k).reset = empty k := by
  cases k <;> rfl

@[simp] theorem reset_reset (a : Accumulator) : a.reset.reset = a.reset := by
  cases a <;> rfl

@[simp] theorem get_reset (a : Accumulator) : a.reset.get = 0 := by
  cases a <;> rfl

theorem reset_foldl_track (a : Accumulator) (vs : List Float) :
    (vs.foldl track a).reset = a.reset := by
  induction vs generalizing a with
  | nil => rfl
  | cons v vs ih => rw [List.foldl_cons, ih, reset_track]

end Accumulator

end Telemetry
