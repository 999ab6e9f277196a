import Telemetry.Regex.Expr
/-!
# Engines

What the reading of an expression depends on beside its signs: tables of character properties, and
how large the automaton may be that an engine builds. Both are parameters, of which one thing is
asked: what is part of a sequence is not too large if the sequence is not.
-/
namespace Telemetry.Regex

/-- The engine that takes an expression once it is read. Names and values of properties are in their
normal form; those that are known here are not asked for. -/
class Engine where
  /-- The ranges of codes of a property with some name, or with a name and a value. -/
  property? : String → Option String → Option (List (Nat × Nat))
  /-- Whether the automaton of an expression is small enough. -/
  fits : Expr → Bool
  fits_of_cat : ∀ a b, fits (.cat a b) = true → fits a = true ∧ fits b = true

/-- A rough number of bytes for what recognises a character of a class. -/
def CharClass.weight : CharClass → Nat
  | none => 32
  | range lo hi => if lo == hi then 32 else if hi.toNat < 128 then 72 else 1000
  | digit => 4000
  | space => 600
  | word => 50000
  | property _ => 20000
  | union a b => a.weight + b.weight
  | inter a b => a.weight + b.weight
  | diff a b => a.weight + b.weight
  | symDiff a b => a.weight + b.weight
  | compl a => 968 + a.weight
  | foldCase a => 2 * a.weight
  | foldAscii a => 2 * a.weight

/-- The automaton of an expression may take this many bytes. -/
def Expr.maxWeight : Nat := 10 * 1024 * 1024

/-- A rough number of bytes for the automaton of an expression. -/
def Expr.weight : Expr → Nat
  | empty => 32
  | chars cls => cls.weight
  | look _ => 32
  | group _ e => 64 + e.weight
  | cat a b => a.weight + b.weight
  | alt a b => 40 + a.weight + b.weight
  | times e least most _ => 40 + max 1 (most.getD least) * e.weight

/-- Knows no further properties, and tells very large expressions from all others by a rough
estimate. -/
@[reducible]
def Engine.estimating : Engine where
  property? _ _ := none
  fits e := e.weight ≤ Expr.maxWeight
  fits_of_cat a b h := by
    have hs : a.weight + b.weight ≤ Expr.maxWeight := of_decide_eq_true h
    exact ⟨decide_eq_true (by omega), decide_eq_true (by omega)⟩

end Telemetry.Regex
