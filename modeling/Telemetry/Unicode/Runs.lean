/-!
# Tables of code points

A property of all code points is written as a text of runs, each a first code point in
small hexadecimal digits and the value from there on: `0Cc 20Zs 21Po`. Values start with a capital
letter, which tells them from the digits.
-/
namespace Telemetry.Unicode

/-- A property as runs: code points from which on a value holds, ascending. -/
abbrev Runs := List (Nat × String)

namespace Runs

def hexValue (c : Char) : Nat :=
  if c.isDigit then c.toNat - '0'.toNat else c.toNat - 'a'.toNat + 10

/-- One run: small hexadecimal digits, then the value. -/
def parseRun (run : List Char) : Nat × String :=
  let isHex (c : Char) := c.isDigit || ('a' ≤ c && c ≤ 'f')
  ((run.takeWhile isHex).foldl (fun n c => n * 16 + hexValue c) 0,
    String.ofList (run.dropWhile isHex))

/-- Cuts at blanks and line ends; `word` holds the reversed characters since the last one. -/
def words (word : List Char) : List Char → List (List Char)
  | [] => if word.isEmpty then [] else [word.reverse]
  | c :: cs =>
    if c = ' ' || c = '\n' then
      if word.isEmpty then words [] cs else word.reverse :: words [] cs
    else words (c :: word) cs

def parse (text : String) : Runs :=
  (words [] text.toList).map parseRun

/-- The value at a code point: that of the last run which starts at or before it. -/
def valueAt (default : String) : Runs → Nat → String
  | [], _ => default
  | (start, value) :: rest, n => if n < start then default else valueAt value rest n

end Runs

end Telemetry.Unicode
