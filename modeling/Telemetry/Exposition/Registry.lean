import Telemetry.Assoc
import Telemetry.Event
import Telemetry.Exposition.Text
/-!
# The registry of samples

The latest value of every sample, by family. Families and the samples in them stay in the order in
which they came first; a family that changes its type starts over without samples, in its place.
-/
namespace Telemetry.Exposition

/-- The type of a family. -/
inductive FamilyKind where
  | counter | gauge
deriving DecidableEq, Repr

namespace FamilyKind

def ofKind (k : Kind) : FamilyKind :=
  if k.isCounter then counter else gauge

def text : FamilyKind → String
  | counter => "counter"
  | gauge => "gauge"

end FamilyKind

structure Family where
  kind : FamilyKind
  samples : List (LabelSet × Float) := []

/-- All families, by name. -/
structure Registry where
  families : List (String × Family) := []

namespace Registry

/-- The family that a sample of `kind` is entered into: the one that is there, emptied if its type
changes, or a new one. -/
def familyFor (r : Registry) (name : String) (kind : FamilyKind) : Family :=
  match Assoc.get? name r.families with
  | some family => if family.kind = kind then family else { kind }
  | none => { kind }

/-- Enters the value of a sample. -/
def update (r : Registry) (name : String) (kind : FamilyKind) (labels : LabelSet)
    (value : Float) : Registry :=
  let family := r.familyFor name kind
  ⟨Assoc.put name { family with samples := Assoc.put labels value family.samples } r.families⟩

/-- What an update is reported by: nothing, unless it changes the type of a family. -/
def updateEvents (r : Registry) (name : String) (kind : FamilyKind) : List Event :=
  match Assoc.get? name r.families with
  | some family =>
    if family.kind = kind then [] else [.familyRetyped family.kind.text kind.text]
  | none => []

def size (r : Registry) : Nat :=
  (r.families.map (·.2.samples.length)).foldr (· + ·) 0

/-- The text of a family: its type, its samples and an empty line. -/
def familyText (name : String) (family : Family) : String :=
  typeLine name family.kind.text ++
    String.join (family.samples.map fun (labels, value) => sampleLine name labels value) ++ "\n"

def render (r : Registry) : String :=
  String.join (r.families.map fun (name, family) => familyText name family)

theorem kind_familyFor (r : Registry) (name : String) (kind : FamilyKind) :
    (r.familyFor name kind).kind = kind := by
  unfold familyFor
  split
  · split
    · assumption
    · rfl
  · rfl

end Registry

end Telemetry.Exposition
