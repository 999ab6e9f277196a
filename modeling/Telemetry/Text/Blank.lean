/-!
# Blank text

Which characters count as white space, and the trimmed and blank texts built on them. Names,
hosts and patterns are blank when white space is all they hold.
-/
namespace Telemetry.Text

/-- The characters with the Unicode property White_Space. -/
def isSpace (c : Char) : Bool :=
  let n := c.toNat
  (9 ≤ n && n ≤ 13) || n == 0x20 || n == 0x85 || n == 0xA0 || n == 0x1680 ||
    (0x2000 ≤ n && n ≤ 0x200A) || n == 0x2028 || n == 0x2029 || n == 0x202F || n == 0x205F ||
    n == 0x3000

/-- Removes white space at both ends. -/
def trimChars (cs : List Char) : List Char :=
  (((cs.dropWhile isSpace).reverse).dropWhile isSpace).reverse

def trim (s : String) : String :=
  String.ofList (trimChars s.toList)

def trimEnd (s : String) : String :=
  String.ofList ((s.toList.reverse.dropWhile isSpace).reverse)

/-- A blank text holds nothing but white space. -/
def isBlank (s : String) : Bool :=
  s.toList.all isSpace

/-- The text with `A` to `Z` made small and all else kept. -/
def lowerAscii (s : String) : String :=
  String.ofList (s.toList.map Char.toLower)

end Telemetry.Text
