import Telemetry.Regex.Expr
/-!
# Programs

A regular expression as a program of small steps. Repetition with counts is first spelled out;
then every part is laid out from a known address, and each step names the address after it.
-/
namespace Telemetry.Regex

/-- A regular expression without counts. `plus` repeats at least once, `star` any number of times
and only what consumes a character. -/
inductive Node where
  | empty
  | chars (cls : CharClass)
  | look (condition : Look)
  | group (index : Nat) (e : Node)
  | cat (a b : Node)
  | alt (a b : Node)
  | opt (e : Node) (greedy : Bool)
  | plus (e : Node) (greedy : Bool)
  | star (e : Node) (greedy : Bool)

namespace Node

/-- `n` copies of `e` and then `last`. -/
def copies (e : Node) : Nat → Node → Node
  | 0, last => last
  | n + 1, last => cat e (copies e n last)

/-- At most `n` copies of `e`, each of which is tried only behind the one before. -/
def upTo (e : Node) (greedy : Bool) : Nat → Node
  | 0 => empty
  | 1 => opt e greedy
  | n + 2 => opt (cat e (upTo e greedy (n + 1))) greedy

/-- Any number of copies. What can match no character is repeated as a choice between nothing and
once or more, so that an empty round is tried in its place and not again. -/
def many (e : Node) (consuming greedy : Bool) : Node :=
  if consuming then star e greedy else opt (plus e greedy) greedy

/-- The counts spelled out. -/
def times (e : Node) (consuming : Bool) (least : Nat) (most : Option Nat) (greedy : Bool) : Node :=
  match least, most with
  | 0, none => many e consuming greedy
  | least + 1, none => copies e least (plus e greedy)
  | least, some most =>
    if most = 0 then empty
    else if least = most then copies e (least - 1) e
    else copies e least (upTo e greedy (most - least))

end Node

/-- Spells out all counts. Rounds of what matches only the empty text are the same, so one of them
stands for all. -/
def Expr.expand : Expr → Node
  | .empty => .empty
  | .chars cls => .chars cls
  | .look condition => .look condition
  | .group i e => .group i e.expand
  | .cat a b => .cat a.expand b.expand
  | .alt a b => .alt a.expand b.expand
  | .times e least most greedy =>
    if e.onlyEmpty then
      e.expand.times false (min least 1) (some (min (most.getD 1) 1)) greedy
    else e.expand.times (!e.nullable) least most greedy

/-- One step of a program; all but the last name the steps that may follow. -/
inductive Inst where
  | consume (cls : CharClass) (next : Nat)
  | jump (next : Nat)
  | fork (first second : Nat)
  | mark (slot next : Nat)
  | require (condition : Look) (next : Nat)
  | accept

namespace Node

def size : Node → Nat
  | empty => 1
  | chars _ => 1
  | look _ => 1
  | group _ e => e.size + 2
  | cat a b => a.size + b.size
  | alt a b => a.size + b.size + 1
  | opt e _ => e.size + 1
  | plus e _ => e.size + 1
  | star e _ => e.size + 1

def choice (greedy : Bool) (body leave : Nat) : Inst :=
  if greedy then .fork body leave else .fork leave body

/-- The steps of a part that starts at the address `here` and goes on at `next`. -/
def code : Node → (here next : Nat) → List Inst
  | empty, _, next => [.jump next]
  | chars cls, _, next => [.consume cls next]
  | look condition, _, next => [.require condition next]
  | group i e, here, next =>
    .mark (2 * i) (here + 1) ::
      (e.code (here + 1) (here + 1 + e.size) ++ [.mark (2 * i + 1) next])
  | cat a b, here, next => a.code here (here + a.size) ++ b.code (here + a.size) next
  | alt a b, here, next =>
    .fork (here + 1) (here + 1 + a.size) ::
      (a.code (here + 1) next ++ b.code (here + 1 + a.size) next)
  | opt e greedy, here, next => choice greedy (here + 1) next :: e.code (here + 1) next
  | plus e greedy, here, next =>
    e.code here (here + e.size) ++ [choice greedy here next]
  | star e greedy, here, next => choice greedy (here + 1) next :: e.code (here + 1) here

@[simp] theorem length_code (e : Node) (here next : Nat) : (e.code here next).length = e.size := by
  induction e generalizing here next with
  | empty => rfl
  | chars => rfl
  | look => rfl
  | group i e ih => simp [code, size, ih]
  | cat a b iha ihb => simp [code, size, iha, ihb]
  | alt a b iha ihb => simp [code, size, iha, ihb]
  | opt e greedy ih => simp [code, size, ih]
  | plus e greedy ih => simp [code, size, ih]
  | star e greedy ih => simp [code, size, ih]

end Node

/-- A program starts at address 0 and ends with its only accepting step. -/
abbrev Program := Array Inst

/-- The program of an expression, which notes the whole match as group 0. -/
def Expr.compile (e : Expr) : Program :=
  let whole := Node.group 0 e.expand
  (whole.code 0 whole.size ++ [Inst.accept]).toArray

end Telemetry.Regex
