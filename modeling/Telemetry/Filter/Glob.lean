import Telemetry.Regex.Engine
/-!
# Wildcard patterns

Patterns in which `*` stands for any run of characters and `?` for any single one; neither reaches
over a line end. All other characters stand for themselves in either case.
-/
namespace Telemetry.Filter

/-- One sign of a wildcard pattern. -/
inductive Wild where
  | char (c : Char)
  | one
  | many
deriving DecidableEq, Repr

/-- What a sign is in a regular expression. -/
def Wild.expr : Wild → Regex.Expr
  | char c => .chars (.foldCase (.char c))
  | one => .chars .notLineFeed
  | many => .times (.chars .notLineFeed) 0 none true

/-- A wildcard pattern, which is compared with whole names. -/
abbrev Glob := List Wild

namespace Glob

def ofChars (cs : List Char) : Glob :=
  cs.map fun c => if c = '*' then .many else if c = '?' then .one else .char c

/-- Whether a sign that stands for one character stands for `c`. -/
def fits (w : Wild) (c : Char) : Bool :=
  match w with
  | .char d => Unicode.eqFold d c
  | .one => c != '\n'
  | .many => false

/-- From the answers for all ends of a text under a pattern, the answers under the pattern with a
sign for one character before it. -/
def beforeOne (w : Wild) : List Char → List Bool → List Bool
  | c :: cs, _ :: row => (fits w c && row.headD false) :: beforeOne w cs row
  | _, _ => [false]

/-- The same with a sign for any run before the pattern: the run stops here, or it takes the next
character and goes on. -/
def beforeMany : List Char → List Bool → List Bool
  | c :: cs, here :: row =>
    let later := beforeMany cs row
    (here || (c != '\n' && later.headD false)) :: later
  | _, row => row

/-- For a text and each of its ends, from the longest to the empty one, whether the pattern
accepts it. -/
def rows : Glob → List Char → List Bool
  | [], cs => List.replicate cs.length false ++ [true]
  | .many :: g, cs => beforeMany cs (rows g cs)
  | w :: g, cs => beforeOne w cs (rows g cs)

/-- Whether the pattern stands for the whole text. -/
def accepts (g : Glob) (cs : List Char) : Bool :=
  (rows g cs).headD false

/-- The regular expression for a pattern, which a text matches from its start to its end. -/
def expr (g : Glob) : Regex.Expr :=
  .cats (.look .textStart :: g.map Wild.expr ++ [.look .textEnd])

end Glob

end Telemetry.Filter
