import Telemetry.Event
import Telemetry.Filter.Glob
import Telemetry.Snapshot
/-!
# Sets of name patterns

Patterns for metric names, of which one has to fit. A plain pattern is looked for anywhere in the
full name, with the case of ASCII letters ignored. A pattern with wildcards has to fit the whole
name or the whole full name. A pattern of stars alone fits everything.
-/
namespace Telemetry.Filter

/-- What a written pattern is. -/
inductive Pattern where
  | everything
  | plain (text : List Char)
  | wild (glob : Glob)
deriving DecidableEq, Repr

namespace Pattern

/-- Reads a pattern; white space around it is ignored, and a blank pattern is none. -/
def ofString? (pattern : String) : Option Pattern :=
  let cs := Text.trimChars pattern.toList
  if cs.isEmpty then none
  else if cs.all (· == '*') then some everything
  else if cs.any fun c => c == '*' || c == '?' then some (wild (Glob.ofChars cs))
  else some (plain cs)

/-- A wildcard pattern whose automaton would be too large is not used. The automaton that looks for
all plain patterns in one go is taken to be never too large. -/
def usable [Regex.Engine] : Pattern → Bool
  | wild glob => Regex.Engine.fits glob.expr
  | _ => true

/-- Whether `part` begins the text, with the case of ASCII letters ignored. -/
def startsIgnoringCase : List Char → List Char → Bool
  | [], _ => true
  | _, [] => false
  | a :: part, b :: text => a.toLower == b.toLower && startsIgnoringCase part text

/-- Whether `part` stands anywhere in the text, with the case of ASCII letters ignored. -/
def containsIgnoringCase (part : List Char) : List Char → Bool
  | [] => part.isEmpty
  | c :: text => startsIgnoringCase part (c :: text) || containsIgnoringCase part text

/-- Whether a pattern fits a metric of the given name and full name. -/
def fits (name fullName : List Char) : Pattern → Bool
  | everything => true
  | plain text => containsIgnoringCase text fullName
  | wild glob => glob.accepts name || glob.accepts fullName

end Pattern

/-- Usable patterns, one of which has to fit. -/
structure PatternSet where
  patterns : List Pattern

namespace PatternSet

/-- The patterns that can be used, and an event for each that is left out. Blank patterns are left
out without notice. -/
def ofList [Regex.Engine] (written : List String) : PatternSet × List Event :=
  let read := written.filterMap fun s => (Pattern.ofString? s).map fun p => (Text.trim s, p)
  (⟨(read.filter (·.2.usable)).map (·.2)⟩,
    (read.filter (!·.2.usable)).map fun (s, _) => .patternIgnored s)

def holds (ps : PatternSet) (s : Snapshot) : Bool :=
  let name := s.name.toList
  let fullName := s.fullName.toList
  ps.patterns.any (·.fits name fullName)

end PatternSet

end Telemetry.Filter
