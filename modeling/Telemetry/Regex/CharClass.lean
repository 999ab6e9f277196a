import Telemetry.Unicode.CaseFold
import Telemetry.Unicode.Category
import Telemetry.Unicode.Script
/-!
# Character classes

The sets of characters that a regular expression can name, as terms, and membership in them.
-/
namespace Telemetry.Regex

inductive Property where
  | any | ascii | assigned | alphabetic | lowercase | uppercase | whiteSpace
  | categories (codes : List String)
  | script (code : String)
  /-- Whatever has one of these codes. -/
  | listed (ranges : List (Nat × Nat))
deriving DecidableEq, Repr

def Property.holds (c : Char) : Property → Bool
  | any => true
  | ascii => c.toNat < 128
  | assigned => Unicode.category c != "Cn"
  | alphabetic => Unicode.isAlphabetic c
  | lowercase => Unicode.isLowercase c
  | uppercase => Unicode.isUppercase c
  | whiteSpace => Text.isSpace c
  | categories codes => codes.contains (Unicode.category c)
  | script code => Unicode.script c == code
  | listed ranges => Unicode.inRanges ranges c.toNat

/-- A set of characters. `foldCase` closes a set under simple case folding, `foldAscii` only
under the case of the letters `A` to `Z`. -/
inductive CharClass where
  | none
  | range (lo hi : Char)
  | digit
  | space
  | word
  | property (p : Property)
  | union (a b : CharClass)
  | inter (a b : CharClass)
  | diff (a b : CharClass)
  | symDiff (a b : CharClass)
  | compl (a : CharClass)
  | foldCase (a : CharClass)
  | foldAscii (a : CharClass)
deriving Repr

namespace CharClass

/-- The other case of an ASCII letter. -/
def otherCase (c : Char) : Char :=
  if c.isUpper then c.toLower else c.toUpper

def mem : CharClass → Char → Bool
  | none, _ => false
  | range lo hi, c => lo ≤ c && c ≤ hi
  | digit, c => Unicode.isDecimalDigit c
  | space, c => Text.isSpace c
  | word, c => Unicode.isWord c
  | property p, c => p.holds c
  | union a b, c => a.mem c || b.mem c
  | inter a b, c => a.mem c && b.mem c
  | diff a b, c => a.mem c && !b.mem c
  | symDiff a b, c => a.mem c != b.mem c
  | compl a, c => !a.mem c
  | foldCase a, c => (Unicode.caseVariants c).any a.mem
  | foldAscii a, c => a.mem c || a.mem (otherCase c)

def char (c : Char) : CharClass := range c c

def ofRanges (ranges : List (Char × Char)) : CharClass :=
  ranges.foldl (fun acc (lo, hi) => union acc (range lo hi)) none

def notLineFeed : CharClass := compl (char '\n')

def notLineEnd : CharClass := compl (union (char '\n') (char '\r'))

def all : CharClass := compl none

def asciiDigit : CharClass := range '0' '9'

def asciiSpace : CharClass := ofRanges [('\t', '\r'), (' ', ' ')]

def asciiWord : CharClass := ofRanges [('0', '9'), ('A', 'Z'), ('_', '_'), ('a', 'z')]

/-- The classes that are named between colons inside brackets. -/
def ofAsciiName? : String → Option CharClass
  | "alnum" => some (ofRanges [('0', '9'), ('A', 'Z'), ('a', 'z')])
  | "alpha" => some (ofRanges [('A', 'Z'), ('a', 'z')])
  | "ascii" => some (range '\x00' '\x7f')
  | "blank" => some (ofRanges [('\t', '\t'), (' ', ' ')])
  | "cntrl" => some (ofRanges [('\x00', '\x1f'), ('\x7f', '\x7f')])
  | "digit" => some asciiDigit
  | "graph" => some (range '!' '~')
  | "lower" => some (range 'a' 'z')
  | "print" => some (range ' ' '~')
  | "punct" => some (ofRanges [('!', '/'), (':', '@'), ('[', '\x60'), ('\x7b', '~')])
  | "space" => some asciiSpace
  | "upper" => some (range 'A' 'Z')
  | "word" => some asciiWord
  | "xdigit" => some (ofRanges [('0', '9'), ('A', 'F'), ('a', 'f')])
  | _ => Option.none

@[simp] theorem mem_char (c d : Char) : (char c).mem d = decide (d = c) := by
  simp only [char, mem, Bool.and_eq_decide, decide_eq_decide]
  constructor
  · rintro ⟨h, k⟩
    simp only [decide_eq_true_eq] at h k
    exact Char.le_antisymm k h
  · rintro rfl
    simp

@[simp] theorem mem_compl (a : CharClass) (c : Char) : (compl a).mem c = !a.mem c := rfl

theorem mem_notLineFeed (c : Char) : notLineFeed.mem c = decide (c ≠ '\n') := by
  simp [notLineFeed]

end CharClass

end Telemetry.Regex
