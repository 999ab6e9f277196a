import Telemetry.Regex.Parser
import Telemetry.Regex.Search
/-!
# Matching by regular expressions

A regular expression that was read once and can be searched for in texts. The match that starts
first wins; of those, the one that the expression prefers. Groups are reported as ranges of places
between characters.
-/
namespace Telemetry

/-- A range of places in a text of `size` characters. -/
structure Span (size : Nat) where
  start : Nat
  stop : Nat
  start_le_stop : start ≤ stop
  stop_le_size : stop ≤ size
deriving DecidableEq, Repr

namespace Span

variable {size : Nat}

/-- The range between two places, if they are in order and in the text. -/
def ofPlaces? (size start stop : Nat) : Option (Span size) :=
  if h : start ≤ stop ∧ stop ≤ size then some ⟨start, stop, h.1, h.2⟩ else none

def text (s : Span size) (cs : List Char) : List Char :=
  (cs.drop s.start).take (s.stop - s.start)

def covers (s : Span size) (i : Nat) : Bool :=
  s.start ≤ i && i < s.stop

end Span

/-- A regular expression, ready to be searched for. -/
structure Regex where
  expr : Regex.Expr
  program : Regex.Program
  groups : Nat

namespace Regex

def parse [Engine] (pattern : String) : Except ParseError Regex := do
  let expr ← Expr.parse pattern.toList
  .ok { expr, program := expr.compile, groups := expr.groupCount }

/-- The ranges of the groups of a match; group 0 is the whole match. -/
structure Captures (size : Nat) where
  slots : Slots

/-- The range of a group, if there is such a group and it took part in the match. -/
def Captures.group? {size : Nat} (c : Captures size) (index : Nat) : Option (Span size) := do
  let start ← c.slots.getD (2 * index) none
  let stop ← c.slots.getD (2 * index + 1) none
  Span.ofPlaces? size start stop

/-- The groups of the best match in a text. -/
def captures (r : Regex) (text : List Char) : Option (Captures text.length) :=
  (search r.program r.groups text).map Captures.mk

def isMatch (r : Regex) (text : List Char) : Bool :=
  (r.captures text).isSome

end Regex

end Telemetry
