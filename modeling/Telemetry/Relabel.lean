import Telemetry.Labels
import Telemetry.Regex
/-!
# Relabeling

Rules that turn parts of a base name into labels. The expression of a rule is read between `^(?:`
and `)$`; each chosen group that takes part in its match becomes a label behind the name, and what
the groups cover is cut out of the name.
-/
namespace Telemetry

namespace Relabel

/-- A rule as configured: an expression, and label names for some of its groups, ascending. -/
structure RuleConfig where
  pattern : String
  groups : List (Nat × String) := []
deriving DecidableEq, Repr

/-- A rule whose expression has been read. -/
structure Rule where
  regex : Regex
  groups : List (Nat × String)

/-- Puts an entry in place among ascending ones; an entry of the same number is replaced. -/
def insertGroup (entry : Nat × String) : List (Nat × String) → List (Nat × String)
  | [] => [entry]
  | first :: rest =>
    if entry.1 < first.1 then entry :: first :: rest
    else if entry.1 = first.1 then entry :: rest
    else first :: insertGroup entry rest

/-- The entries in ascending order of their numbers; of two with one number the later wins. -/
def sortGroups (entries : List (Nat × String)) : List (Nat × String) :=
  entries.foldl (fun sorted entry => insertGroup entry sorted) []

/-- The text of the expression that a rule searches names for. -/
def wholeName (pattern : String) : String :=
  "^(?:" ++ pattern ++ ")$"

def RuleConfig.compile [Regex.Engine] (config : RuleConfig) : Except Regex.ParseError Rule := do
  .ok { regex := ← Regex.parse (wholeName config.pattern), groups := config.groups }

/-- A captured part of a name and the label it becomes. -/
structure Capture (size : Nat) where
  label : String
  span : Span size

/-- The labels that a rule takes from a name, by ascending number of their groups. -/
def Rule.captures (rule : Rule) (name : List Char) : List (Capture name.length) :=
  match rule.regex.captures name with
  | none => []
  | some found =>
    rule.groups.filterMap fun (index, label) =>
      (found.group? index).map fun span => { label, span }

/-- What is left of a name from place `pos` on when ranges, sorted by their starts, are cut out. -/
def remaining {size : Nat} (name : List Char) : (pos : Nat) → List (Span size) → List Char
  | pos, [] => name.drop pos
  | pos, s :: spans =>
    (name.drop pos).take (s.start - pos) ++ remaining name (max pos s.stop) spans

/-- What is left of a name when ranges are cut out, without empty segments. -/
def cut {size : Nat} (name : List Char) (spans : List (Span size)) : List Char :=
  let sorted := spans.mergeSort fun a b => a.start ≤ b.start
  Text.collapse '.' (remaining name 0 sorted)

end Relabel

structure Relabeler where
  rules : List Relabel.Rule := []

namespace Relabeler

/-- Reads the rules of a configuration; the first that is no expression is given back. -/
def ofConfig [Regex.Engine] (rules : List Relabel.RuleConfig) :
    Except (Nat × Relabel.RuleConfig) Relabeler := do
  let rules ← rules.zipIdx.mapM fun (rule, i) =>
    match rule.compile with
    | .ok rule => .ok rule
    | .error _ => .error (i, rule)
  .ok { rules }

/-- All that the rules take from a name; each rule sees the whole name. -/
def captures (r : Relabeler) (name : List Char) : List (Relabel.Capture name.length) :=
  r.rules.flatMap (·.captures name)

def apply (r : Relabeler) (labels : Labels) : Option Labels :=
  let name := labels.name.toList
  match r.captures name with
  | [] => none
  | first :: more =>
    let taken := first :: more
    let added := taken.foldl
      (fun l c => l.append c.label (String.ofList (c.span.text name))) labels
    some { added with name := String.ofList (Relabel.cut name (taken.map (·.span))) }

end Relabeler

end Telemetry
