import Telemetry.Regex.CharClass
/-!
# Regular expressions

The terms of regular expressions, with flags already resolved into classes and conditions.
-/
namespace Telemetry.Regex

/-- A condition on a place in the text. Conditions on words come in a form for all of Unicode and
one for ASCII alone. -/
inductive Look where
  | textStart
  | textEnd
  | lineStart
  | lineEnd
  | lineStartWide
  | lineEndWide
  | wordBoundary (unicode : Bool)
  | notWordBoundary (unicode : Bool)
  | wordStart (unicode : Bool)
  | wordEnd (unicode : Bool)
  | wordStartHalf (unicode : Bool)
  | wordEndHalf (unicode : Bool)
deriving DecidableEq, Repr

/-- Whether a neighbouring character, if there is one, belongs to a word. -/
def wordAt (unicode : Bool) : Option Char → Bool
  | none => false
  | some c => if unicode then Unicode.isWord c else CharClass.asciiWord.mem c

/-- Whether a condition holds between two neighbouring characters, either of which is missing at
an end of the text. Wide lines end in a line feed, a carriage return or both in that pair's order,
which no condition splits. -/
def Look.holds (before after : Option Char) : Look → Bool
  | textStart => before.isNone
  | textEnd => after.isNone
  | lineStart => before.isNone || before == some '\n'
  | lineEnd => after.isNone || after == some '\n'
  | lineStartWide =>
    before.isNone || before == some '\n' || (before == some '\r' && after != some '\n')
  | lineEndWide =>
    after.isNone || after == some '\r' || (after == some '\n' && before != some '\r')
  | wordBoundary u => wordAt u before != wordAt u after
  | notWordBoundary u => wordAt u before == wordAt u after
  | wordStart u => !wordAt u before && wordAt u after
  | wordEnd u => wordAt u before && !wordAt u after
  | wordStartHalf u => !wordAt u before
  | wordEndHalf u => !wordAt u after

/-- A regular expression. `times e least most greedy` repeats `e`, without an upper end if `most`
is absent. -/
inductive Expr where
  | empty
  | chars (cls : CharClass)
  | look (condition : Look)
  | group (index : Nat) (e : Expr)
  | cat (a b : Expr)
  | alt (a b : Expr)
  | times (e : Expr) (least : Nat) (most : Option Nat) (greedy : Bool)
deriving Repr

namespace Expr

def cats : List Expr → Expr
  | [] => empty
  | [e] => e
  | e :: es => cat e (cats es)

def alts : List Expr → Expr
  | [] => empty
  | [e] => e
  | e :: es => alt e (alts es)

/-- Whether the expression can match no character at all. -/
def nullable : Expr → Bool
  | empty => true
  | chars _ => false
  | look _ => true
  | group _ e => e.nullable
  | cat a b => a.nullable && b.nullable
  | alt a b => a.nullable || b.nullable
  | times e least _ _ => least == 0 || e.nullable

/-- Whether the expression matches no text but the empty one. -/
def onlyEmpty : Expr → Bool
  | empty => true
  | chars _ => false
  | look _ => true
  | group _ e => e.onlyEmpty
  | cat a b => a.onlyEmpty && b.onlyEmpty
  | alt a b => a.onlyEmpty && b.onlyEmpty
  | times e _ most _ => most == some 0 || e.onlyEmpty

/-- The number of the highest group. -/
def groupCount : Expr → Nat
  | empty => 0
  | chars _ => 0
  | look _ => 0
  | group i e => max i e.groupCount
  | cat a b => max a.groupCount b.groupCount
  | alt a b => max a.groupCount b.groupCount
  | times e _ _ _ => e.groupCount

end Expr

end Telemetry.Regex
