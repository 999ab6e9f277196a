import Telemetry.Text.Segments
/-!
# Labels

A metric is identified by a base name with an optional label before it and a list of labels after
it. Names and values of the labels behind the base name are two lists, which may differ in length:
a bucket has names without values, and a value may come without a name.
-/
namespace Telemetry

/-- The base name of a metric and the labels around it. They are ordered field by field. -/
structure Labels where
  name : String
  frontName : Option String := none
  frontValue : Option String := none
  backNames : List String := []
  backValues : List String := []
deriving DecidableEq, Ord, Repr, Inhabited

namespace Labels

def ofName (name : String) : Labels :=
  { name }

/-- Adds one named value behind the labels that are there. -/
def append (l : Labels) (name value : String) : Labels :=
  { l with backNames := l.backNames ++ [name], backValues := l.backValues ++ [value] }

/-- Drops the name of a front label that has no value. -/
def normalize (l : Labels) : Labels :=
  { l with frontName := if l.frontValue.isSome then l.frontName else none }

/-- The front label, if it has both a name and a value. -/
def frontPair (l : Labels) : Option (String × String) :=
  match l.frontName, l.frontValue with
  | some n, some v => some (n, v)
  | _, _ => none

/-- The labels that have both a name and a value, in order. -/
def pairs (l : Labels) : List (String × String) :=
  l.frontPair.toList ++ l.backNames.zip l.backValues

/-- The parts of the written name: front value, base name, values behind it. -/
def segments (l : Labels) : List String :=
  l.frontValue.toList ++ l.name :: l.backValues

/-- The values behind the base name, each after its name if it has one. -/
def namedValues : List String → List String → List String
  | _, [] => []
  | [], values => values
  | n :: names, v :: values => n :: v :: namedValues names values

/-- The parts of the written name, with label names among them. -/
def namedSegments (l : Labels) : List String :=
  l.frontName.toList ++ l.frontValue.toList ++ l.name :: namedValues l.backNames l.backValues

def format (l : Labels) (sep : Char) : String :=
  Text.joinWith sep l.segments

/-- The written name with label names, with `sep` between the parts. -/
def formatNamed (l : Labels) (sep : Char) : String :=
  Text.joinWith sep l.namedSegments

def dotted (l : Labels) : String :=
  l.format '.'

@[simp] theorem normalize_normalize (l : Labels) : l.normalize.normalize = l.normalize := by
  cases h : l.frontValue <;> simp [normalize, h]

@[simp] theorem format_normalize (l : Labels) (sep : Char) :
    l.normalize.format sep = l.format sep := rfl

end Labels

end Telemetry
