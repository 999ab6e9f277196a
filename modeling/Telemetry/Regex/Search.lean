import Telemetry.Regex.Program
/-!
# Searching a text

All ways through a program are followed side by side, one character at a time, in the order of
their preference: earlier starts before later ones, first choices before second ones. At each place
a step is entered once, by the most preferred way that reaches it.
-/
namespace Telemetry.Regex

/-- Where groups begin and end, as far as a way has come. -/
abbrev Slots := Array (Option Nat)

/-- A way through a program: its next step and the marks made so far. -/
structure Thread where
  pc : Nat
  slots : Slots

/-- A way that waits for a character of a class. -/
structure Waiting where
  cls : CharClass
  next : Nat
  slots : Slots

/-- What was found out at one place: the ways that wait for a character, best first, and the marks
of a match that ends here. Ways that are worse than the match are gone. -/
structure Place where
  waiting : List Waiting
  found : Option Slots

/-- Follows the ways at a place until each waits for a character, is given up or accepts. -/
def settle (p : Program) (pos : Nat) (before after : Option Char) :
    (fuel : Nat) → List Thread → (seen : Array Bool) → (waiting : List Waiting) → Place
  | 0, _, _, waiting => ⟨waiting.reverse, none⟩
  | _ + 1, [], _, waiting => ⟨waiting.reverse, none⟩
  | fuel + 1, t :: ts, seen, waiting =>
    if seen.getD t.pc true then settle p pos before after fuel ts seen waiting
    else
      let seen := seen.setIfInBounds t.pc true
      match p[t.pc]? with
      | none => settle p pos before after fuel ts seen waiting
      | some (.consume cls next) =>
        settle p pos before after fuel ts seen (⟨cls, next, t.slots⟩ :: waiting)
      | some (.jump next) =>
        settle p pos before after fuel ({ t with pc := next } :: ts) seen waiting
      | some (.fork first second) =>
        settle p pos before after fuel ({ t with pc := first } :: { t with pc := second } :: ts)
          seen waiting
      | some (.mark slot next) =>
        settle p pos before after fuel
          (⟨next, t.slots.setIfInBounds slot (some pos)⟩ :: ts) seen waiting
      | some (.require condition next) =>
        if condition.holds before after then
          settle p pos before after fuel ({ t with pc := next } :: ts) seen waiting
        else settle p pos before after fuel ts seen waiting
      | some .accept => ⟨waiting.reverse, some t.slots⟩

/-- Follows the ways at a place with fuel to spare: a way that is taken up was there at first or
stems from a step entered for the first time. -/
def settleAll (p : Program) (pos : Nat) (before after : Option Char) (threads : List Thread) :
    Place :=
  settle p pos before after (threads.length + 2 * p.size + 1) threads
    (Array.replicate p.size false) []

/-- Lets the ways that wait for `c` go on. -/
def advance (c : Char) (waiting : List Waiting) : List Thread :=
  waiting.filterMap fun w => if w.cls.mem c then some ⟨w.next, w.slots⟩ else none

/-- Searches the text from place `pos` on with the ways that have come there. While nothing is
found, a new way starts at each place, worse than all before it. -/
def searchFrom (p : Program) (fresh : Slots) (pos : Nat) (before : Option Char)
    (threads : List Thread) (best : Option Slots) : List Char → Option Slots
  | [] => (settleAll p pos before none (start best)).found.or best
  | c :: cs =>
    let place := settleAll p pos before (some c) (start best)
    searchFrom p fresh (pos + 1) (some c) (advance c place.waiting) (place.found.or best) cs
where
  start (best : Option Slots) : List Thread :=
    if best.isNone then threads ++ [⟨0, fresh⟩] else threads

/-- The marks of the best match in a text. -/
def search (p : Program) (groups : Nat) (text : List Char) : Option Slots :=
  searchFrom p (Array.replicate (2 * (groups + 1)) none) 0 none [] none text

end Telemetry.Regex
