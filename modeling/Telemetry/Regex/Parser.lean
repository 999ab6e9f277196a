import Telemetry.Regex.Engine
/-!
# Reading regular expressions

The written form of regular expressions. A text is read in one pass over its characters with a
stack of open groups, and brackets in one pass with a stack of open classes. Every step consumes a
character, so the length of the text bounds both passes.
-/
namespace Telemetry.Regex

/-- Why a text is no regular expression. -/
inductive ParseError where
  | groupUnclosed
  | groupUnopened
  | groupName
  | lookAround
  | flags
  | nothingToRepeat
  | repetition
  | escape
  | classUnclosed
  | classRange
  | classItem
  | unknownProperty
  | notText
  | tooDeep
  | tooLarge
deriving DecidableEq, Repr

/-- What the letters between `(?` and `)` switch. -/
structure Flags where
  ignoreCase : Bool := false
  multiLine : Bool := false
  dotAll : Bool := false
  swapGreed : Bool := false
  wideLines : Bool := false
  unicode : Bool := true
  freeSpacing : Bool := false
deriving DecidableEq, Repr

/-- Skips white space and comments, which run from `#` to the end of the line. -/
def skipBlank (inComment : Bool) : List Char → List Char
  | [] => []
  | c :: cs =>
    if inComment then skipBlank (c != '\n') cs
    else if Text.isSpace c then skipBlank false cs
    else if c == '#' then skipBlank true cs
    else c :: cs

namespace Flags

/-- The rest of the text where the next sign stands. -/
def skip (f : Flags) (cs : List Char) : List Char :=
  if f.freeSpacing then skipBlank false cs else cs

/-- Switches the flag of a letter. -/
def set? (f : Flags) (letter : Char) (value : Bool) : Option Flags :=
  match letter with
  | 'i' => some { f with ignoreCase := value }
  | 'm' => some { f with multiLine := value }
  | 's' => some { f with dotAll := value }
  | 'U' => some { f with swapGreed := value }
  | 'R' => some { f with wideLines := value }
  | 'u' => some { f with unicode := value }
  | 'x' => some { f with freeSpacing := value }
  | _ => none

def fold (f : Flags) (cls : CharClass) : CharClass :=
  if f.ignoreCase then if f.unicode then .foldCase cls else .foldAscii cls else cls

def negate (negated : Bool) (cls : CharClass) : CharClass :=
  if negated then .compl cls else cls

/-- A class that was read without Unicode must not reach beyond ASCII: its members there would be
bytes that are no characters. Such a class holds all of them or none. -/
def check (f : Flags) (cls : CharClass) : Except ParseError CharClass :=
  if !f.unicode && cls.mem '\u0080' then .error .notText else .ok cls

end Flags

/-- A sign that stands for itself, a class, or a condition. -/
inductive Sign where
  | char (c : Char)
  | byte (c : Char)
  | cls (cls : CharClass)
  | look (condition : Look)

def isHexDigit (c : Char) : Bool :=
  c.isDigit || ('a' ≤ c && c ≤ 'f') || ('A' ≤ c && c ≤ 'F')

def hexValue (c : Char) : Nat :=
  if c.isDigit then c.toNat - '0'.toNat else c.toLower.toNat - 'a'.toNat + 10

/-- The character with a code point, if there is one. -/
def charOf (digits : List Char) : Except ParseError Char :=
  let n := digits.foldl (fun n c => n * 16 + hexValue c) 0
  if h : n.isValidChar then .ok (Char.ofNatAux n h) else .error .escape

/-- Reads just `count` hexadecimal digits. -/
def hexDigits (f : Flags) : Nat → List Char → Except ParseError (List Char × List Char)
  | 0, cs => .ok ([], cs)
  | _ + 1, [] => .error .escape
  | n + 1, c :: cs => do
    if !isHexDigit c then throw .escape
    let (digits, rest) ← hexDigits f n (f.skip cs)
    .ok (c :: digits, rest)

/-- Reads up to the closing brace, leaving out blanks where they are free. -/
def untilBrace (f : Flags) : List Char → Except ParseError (List Char × List Char)
  | [] => .error .escape
  | c :: cs =>
    if c == '\x7d' then .ok ([], cs)
    else if f.freeSpacing && Text.isSpace c then untilBrace f cs
    else do
      let (text, rest) ← untilBrace f cs
      .ok (c :: text, rest)

/-- Reads a code point after `\x`, `\u` or `\U`, which take this many digits or braces. -/
def hexEscape (f : Flags) (count : Nat) (cs : List Char) :
    Except ParseError (Char × List Char) :=
  match f.skip cs with
  | [] => .error .escape
  | c :: rest =>
    if c == '\x7b' then do
      let (digits, rest) ← untilBrace f rest
      if digits.isEmpty || !digits.all isHexDigit then throw .escape
      .ok (← charOf digits, f.skip rest)
    else do
      let (digits, rest) ← hexDigits f count (c :: rest)
      .ok (← charOf digits, f.skip rest)

/-- The names of general categories, in small letters, with the categories they gather. -/
def categoryNames : List (List String × List String) :=
  [(["l", "letter"], ["Lu", "Ll", "Lt", "Lm", "Lo"]),
    (["lc", "casedletter"], ["Lu", "Ll", "Lt"]),
    (["lu", "uppercaseletter"], ["Lu"]), (["ll", "lowercaseletter"], ["Ll"]),
    (["lt", "titlecaseletter"], ["Lt"]), (["lm", "modifierletter"], ["Lm"]),
    (["lo", "otherletter"], ["Lo"]),
    (["m", "mark", "combiningmark"], ["Mn", "Mc", "Me"]),
    (["mn", "nonspacingmark"], ["Mn"]), (["mc", "spacingmark"], ["Mc"]),
    (["me", "enclosingmark"], ["Me"]),
    (["n", "number"], ["Nd", "Nl", "No"]), (["nd", "decimalnumber", "digit"], ["Nd"]),
    (["nl", "letternumber"], ["Nl"]), (["no", "othernumber"], ["No"]),
    (["p", "punctuation", "punct"], ["Pc", "Pd", "Ps", "Pe", "Pi", "Pf", "Po"]),
    (["pc", "connectorpunctuation"], ["Pc"]), (["pd", "dashpunctuation"], ["Pd"]),
    (["ps", "openpunctuation"], ["Ps"]), (["pe", "closepunctuation"], ["Pe"]),
    (["pi", "initialpunctuation"], ["Pi"]), (["pf", "finalpunctuation"], ["Pf"]),
    (["po", "otherpunctuation"], ["Po"]),
    (["s", "symbol"], ["Sm", "Sc", "Sk", "So"]), (["sm", "mathsymbol"], ["Sm"]),
    (["sc", "currencysymbol"], ["Sc"]), (["sk", "modifiersymbol"], ["Sk"]),
    (["so", "othersymbol"], ["So"]),
    (["z", "separator"], ["Zs", "Zl", "Zp"]), (["zs", "spaceseparator"], ["Zs"]),
    (["zl", "lineseparator"], ["Zl"]), (["zp", "paragraphseparator"], ["Zp"]),
    (["c", "other"], ["Cc", "Cf", "Cs", "Co", "Cn"]), (["cc", "control", "cntrl"], ["Cc"]),
    (["cf", "format"], ["Cf"]), (["co", "privateuse"], ["Co"]),
    (["cn", "unassigned"], ["Cn"])]

/-- Names are compared without case, blanks, hyphens, underscores and a leading `is`. -/
def normalName (name : List Char) : String :=
  let isIs := match name with
    | a :: b :: _ => a.toLower == 'i' && b.toLower == 's'
    | _ => false
  let body := if isIs then name.drop 2 else name
  let kept := (body.filter fun c => c != ' ' && c != '_' && c != '-' && c.toNat < 128).map
    Char.toLower
  if isIs && kept == ['c'] then "isc" else String.ofList kept

def categoryOf? (name : String) : Option Property :=
  match name with
  | "any" => some .any
  | "ascii" => some .ascii
  | "assigned" => some .assigned
  | name => (categoryNames.find? (·.1.contains name)).map (.categories ·.2)

def scriptOf? (name : String) : Option Property :=
  (Unicode.scriptNames.find? fun (long, code) =>
    name == long || name == Text.lowerAscii code).map (.script ·.2)

/-- The property of a bare name: a property of its own, a general category or a script, or what the
engine knows by that name. -/
def propertyOf? [Engine] (name : String) : Option Property :=
  match name with
  | "alphabetic" | "alpha" => some .alphabetic
  | "lowercase" | "lower" => some .lowercase
  | "uppercase" | "upper" => some .uppercase
  | "whitespace" | "space" | "wspace" => some .whiteSpace
  | name =>
    categoryOf? name <|> scriptOf? name <|> (Engine.property? name none).map .listed

/-- The property of a name and a value. -/
def propertyValue? [Engine] (name value : String) : Option Property :=
  match name with
  | "generalcategory" | "gc" => categoryOf? value
  | "script" | "sc" => scriptOf? value
  | _ => (Engine.property? name (some value)).map .listed

/-- Cuts a text at the first place where `sep` stands. -/
def cutAt (sep : List Char) : List Char → Option (List Char × List Char)
  | [] => none
  | c :: cs =>
    if sep.isPrefixOf (c :: cs) then some ([], (c :: cs).drop sep.length)
    else (cutAt sep cs).map fun (a, b) => (c :: a, b)

/-- The property written between braces, and whether it is negated once more. -/
def namedProperty [Engine] (text : List Char) : Except ParseError (Bool × Property) :=
  let found (negated : Bool) : Option Property → Except ParseError (Bool × Property)
    | some p => .ok (negated, p)
    | none => .error .unknownProperty
  match cutAt ['!', '='] text with
  | some (name, value) => found true (propertyValue? (normalName name) (normalName value))
  | none =>
    match cutAt [':'] text <|> cutAt ['='] text with
    | some (name, value) => found false (propertyValue? (normalName name) (normalName value))
    | none => found false (propertyOf? (normalName text))

/-- Reads a class after `\p` or `\P`. -/
def propertyEscape [Engine] (f : Flags) (negated : Bool) (cs : List Char) :
    Except ParseError (CharClass × List Char) := do
  if !f.unicode then throw .notText
  let finish (other : Bool) (p : Property) (rest : List Char) : CharClass × List Char :=
    (Flags.negate (negated != other) (f.fold (.property p)), rest)
  match f.skip cs with
  | [] => throw .escape
  | '\x7b' :: rest =>
    let (text, rest) ← untilBrace f rest
    let (other, p) ← namedProperty text
    .ok (finish other p rest)
  | c :: rest =>
    if c == '\\' then throw .escape
    match propertyOf? (normalName [c]) with
    | some p => .ok (finish false p (f.skip rest))
    | none => throw .unknownProperty

/-- The class of a letter after a backslash. -/
def shortClass (f : Flags) (letter : Char) : Except ParseError CharClass :=
  let base :=
    match letter.toLower with
    | 'd' => if f.unicode then CharClass.digit else .asciiDigit
    | 's' => if f.unicode then CharClass.space else .asciiSpace
    | _ => if f.unicode then CharClass.word else .asciiWord
  f.check (Flags.negate letter.isUpper base)

def isBoundaryLetter (c : Char) : Bool :=
  c.isAlpha || c == '-'

/-- Reads the kind of word condition in braces after `\b`, if one stands there: the first sign in
the braces is a letter. -/
def boundaryKind (f : Flags) (cs : List Char) :
    Except ParseError (Option (Look × List Char)) := do
  match cs with
  | '\x7b' :: rest =>
    match f.skip rest with
    | [] => throw .escape
    | c :: rest =>
      if !isBoundaryLetter c then return none
      let (text, rest) ← untilBrace f (c :: rest)
      match String.ofList text with
      | "start" => return some (.wordStart f.unicode, rest)
      | "end" => return some (.wordEnd f.unicode, rest)
      | "start-half" => return some (.wordStartHalf f.unicode, rest)
      | "end-half" => return some (.wordEndHalf f.unicode, rest)
      | _ => throw .escape
  | _ => return none

def escape [Engine] (f : Flags) : List Char → Except ParseError (Sign × List Char)
  | [] => .error .escape
  | c :: cs =>
    match c with
    | 'x' => do
      let (d, rest) ← hexEscape f 2 cs
      let braced := (f.skip cs).head? == some '\x7b'
      .ok (if braced then .char d else .byte d, rest)
    | 'u' => do
      let (d, rest) ← hexEscape f 4 cs
      .ok (.char d, rest)
    | 'U' => do
      let (d, rest) ← hexEscape f 8 cs
      .ok (.char d, rest)
    | 'p' | 'P' => do
      let (cls, rest) ← propertyEscape f (c == 'P') cs
      .ok (.cls cls, rest)
    | 'd' | 'D' | 's' | 'S' | 'w' | 'W' => do
      .ok (.cls (← shortClass f c), cs)
    | 'a' => .ok (.char '\x07', cs)
    | 'f' => .ok (.char '\x0c', cs)
    | 't' => .ok (.char '\t', cs)
    | 'n' => .ok (.char '\n', cs)
    | 'r' => .ok (.char '\r', cs)
    | 'v' => .ok (.char '\x0b', cs)
    | 'A' => .ok (.look .textStart, cs)
    | 'z' => .ok (.look .textEnd, cs)
    | 'b' => do
      match ← boundaryKind f cs with
      | some (look, rest) => .ok (.look look, rest)
      | none => .ok (.look (.wordBoundary f.unicode), cs)
    | 'B' => .ok (.look (.notWordBoundary f.unicode), cs)
    | '<' => .ok (.look (.wordStart f.unicode), cs)
    | '>' => .ok (.look (.wordEnd f.unicode), cs)
    | c =>
      if c.toNat < 128 && !c.isAlphanum then .ok (.char c, cs) else .error .escape

/-! ## Bracketed classes -/

/-- The operations between classes inside brackets. -/
inductive SetOp where
  | inter | diff | symDiff

/-- A bracketed class that is still open: its finished left side with an operation, if any, and
the union of the items since then. -/
structure OpenClass where
  negated : Bool
  left : Option (CharClass × SetOp) := none
  items : CharClass := .none
  depth : Nat := 1

namespace OpenClass

def add (o : OpenClass) (cls : CharClass) : OpenClass :=
  { o with items := .union o.items cls }

def joined (f : Flags) (o : OpenClass) : CharClass :=
  match o.left with
  | none => o.items
  | some (a, .inter) => .inter (f.fold a) (f.fold o.items)
  | some (a, .diff) => .diff (f.fold a) (f.fold o.items)
  | some (a, .symDiff) => .symDiff (f.fold a) (f.fold o.items)

/-- Makes all that was read the left side of an operation. -/
def operate (f : Flags) (o : OpenClass) (op : SetOp) : OpenClass :=
  { o with left := some (o.joined f, op), items := .none }

/-- The class at its closing bracket. -/
def close (f : Flags) (o : OpenClass) : Except ParseError CharClass :=
  f.check (Flags.negate o.negated (f.fold (o.joined f)))

end OpenClass

/-- Hyphens at the start of a class stand for themselves. -/
def leadingHyphens (f : Flags) (fuel : Nat) (o : OpenClass) (cs : List Char) :
    OpenClass × List Char :=
  match fuel, cs with
  | fuel + 1, '-' :: rest => leadingHyphens f fuel (o.add (.char '-')) (f.skip rest)
  | _, cs => (o, cs)

/-- Reads the start of a class behind its bracket: a `^`, hyphens, or else a `]` that stands for
itself. -/
def openClass (f : Flags) (cs : List Char) : Except ParseError (OpenClass × List Char) :=
  let cs := f.skip cs
  let (negated, cs) := match cs with
    | '^' :: rest => (true, f.skip rest)
    | cs => (false, cs)
  let (o, after) := leadingHyphens f cs.length { negated } cs
  let (o, after) := match cs, after with
    | ']' :: _, ']' :: rest => (o.add (.char ']'), f.skip rest)
    | _, after => (o, after)
  if after.isEmpty then .error .classUnclosed else .ok (o, after)

/-- Reads a class named between colons, such as `[:alpha:]`, behind its bracket. -/
def asciiClass? (cs : List Char) : Option (CharClass × List Char) :=
  match cs with
  | ':' :: rest =>
    let (negated, rest) := match rest with
      | '^' :: rest => (true, rest)
      | rest => (false, rest)
    match rest.dropWhile (· != ':') with
    | ':' :: ']' :: after =>
      (CharClass.ofAsciiName? (String.ofList (rest.takeWhile (· != ':')))).map
        fun cls => (Flags.negate negated cls, after)
    | _ => none
  | _ => none

/-- One sign inside brackets. -/
def classSign [Engine] (f : Flags) : List Char → Except ParseError (Sign × List Char)
  | [] => .error .classUnclosed
  | '\\' :: cs => escape f cs
  | c :: cs => .ok (.char c, cs)

def Sign.toItem (f : Flags) : Sign → Except ParseError CharClass
  | .char c | .byte c =>
    if !f.unicode && 128 ≤ c.toNat then .error .notText else .ok (.char c)
  | .cls c => .ok c
  | .look _ => .error .classItem

def Sign.toEnd (f : Flags) : Sign → Except ParseError Char
  | .char c | .byte c =>
    if !f.unicode && 128 ≤ c.toNat then .error .notText else .ok c
  | _ => .error .classRange

/-- Reads one item of a class: a sign, or a range of two. A hyphen before `]` or another hyphen
makes no range. -/
def classItem [Engine] (f : Flags) (cs : List Char) :
    Except ParseError (CharClass × List Char) := do
  let (first, rest) ← classSign f cs
  match f.skip rest with
  | [] => throw .classUnclosed
  | '-' :: after =>
    match f.skip after with
    | [] => throw .classUnclosed
    | d :: more =>
      if d == ']' || d == '-' then .ok (← first.toItem f, f.skip rest)
      else
        let (last, rest) ← classSign f (d :: more)
        let lo ← first.toEnd f
        let hi ← last.toEnd f
        if hi < lo then throw .classRange
        .ok (.range lo hi, rest)
  | rest => .ok (← first.toItem f, rest)

/-- Reads a bracketed class behind its bracket, with the stack of classes around it. The answer
holds how deep classes were nested. -/
def bracketed [Engine] (f : Flags) (fuel : Nat) (o : OpenClass) (around : List OpenClass)
    (cs : List Char) : Except ParseError (CharClass × Nat × List Char) :=
  match fuel with
  | 0 => .error .classUnclosed
  | fuel + 1 =>
    match f.skip cs with
    | [] => .error .classUnclosed
    | '[' :: rest =>
      match asciiClass? rest with
      | some (cls, rest) => bracketed f fuel (o.add cls) around rest
      | none => do
        let (inner, rest) ← openClass f rest
        bracketed f fuel inner (o :: around) rest
    | ']' :: rest => do
      let cls ← o.close f
      match around with
      | [] => .ok (cls, o.depth, rest)
      | outer :: around =>
        bracketed f fuel { outer.add cls with depth := max outer.depth (o.depth + 1) } around
          rest
    | '&' :: '&' :: rest => bracketed f fuel (o.operate f .inter) around rest
    | '-' :: '-' :: rest => bracketed f fuel (o.operate f .diff) around rest
    | '~' :: '~' :: rest => bracketed f fuel (o.operate f .symDiff) around rest
    | cs => do
      let (cls, rest) ← classItem f cs
      bracketed f fuel (o.add cls) around rest

/-! ## Groups and repetition -/

/-- An expression with the depth of its nesting. -/
structure Nested where
  expr : Expr
  depth : Nat

/-- A group that is still open, or the whole text: the flags to come back to, its number if it
captures, the finished alternatives and the parts of the current one, both with the latest first.
A part that is absent was a change of flags. -/
structure OpenGroup where
  outer : Flags
  index : Option Nat := none
  branches : List Nested := []
  parts : List (Option Nested) := []

namespace OpenGroup

def deepest (items : List Nested) : Nat :=
  items.foldl (fun n item => max n item.depth) 0

def branch (g : OpenGroup) : Nested :=
  let items := (g.parts.reverse.filterMap id)
  { expr := .cats (items.map (·.expr))
    depth := deepest items + if g.parts.length ≤ 1 then 0 else 1 }

/-- All alternatives as one expression. -/
def body (g : OpenGroup) : Nested :=
  let branches := (g.branch :: g.branches).reverse
  { expr := .alts (branches.map (·.expr))
    depth := deepest branches + if branches.length ≤ 1 then 0 else 1 }

def close (g : OpenGroup) : Nested :=
  let b := g.body
  { expr := match g.index with
      | some i => .group i b.expr
      | none => b.expr
    depth := b.depth + 1 }

def push (g : OpenGroup) (item : Nested) : OpenGroup :=
  { g with parts := some item :: g.parts }

end OpenGroup

/-- What has been read of a text. -/
structure ParseState where
  flags : Flags := {}
  current : OpenGroup := { outer := {} }
  around : List OpenGroup := []
  groups : Nat := 0
  names : List String := []

/-- Reads flags up to `:` or `)`, which is given back. A flag stands at most once, a minus sign at
most once and not last. -/
def readFlags (old new : Flags) (seen : List Char) (minus : Bool) :
    List Char → Except ParseError (Flags × Char × List Char)
  | [] => .error .flags
  | c :: cs =>
    if c == ':' || c == ')' then
      if seen.head? == some '-' then .error .flags
      else if c == ')' && seen.isEmpty then .error .flags
      else .ok (new, c, cs)
    else if seen.contains c then .error .flags
    else if c == '-' then readFlags old new (c :: seen) true cs
    else match new.set? c (!minus) with
      | some new => readFlags old new (c :: seen) minus cs
      | none => .error .flags

def isNameChar (first : Bool) (c : Char) : Bool :=
  c == '_' || Unicode.isAlphabetic c ||
    (!first && (c == '.' || c == '[' || c == ']' || Unicode.isNumeric c))

/-- Reads the name of a group up to `>`. -/
def groupName (cs : List Char) : Except ParseError (String × List Char) :=
  let name := cs.takeWhile (· != '>')
  match name, cs.dropWhile (· != '>') with
  | c :: more, _ :: rest =>
    if isNameChar true c && more.all (isNameChar false) then .ok (String.ofList name, rest)
    else .error .groupName
  | _, _ => .error .groupName

namespace ParseState

def openCapture (s : ParseState) (name : Option String) : Except ParseError ParseState := do
  if (name.map s.names.contains).getD false then throw .groupName
  .ok { s with
    groups := s.groups + 1
    names := name.toList ++ s.names
    around := s.current :: s.around
    current := { outer := s.flags, index := some (s.groups + 1) } }

/-- Opens the group, or takes over the flags, behind a `(`. -/
def openGroup (s : ParseState) (cs : List Char) :
    Except ParseError (ParseState × List Char) := do
  match s.flags.skip cs with
  | '?' :: '=' :: _ | '?' :: '!' :: _ | '?' :: '<' :: '=' :: _ | '?' :: '<' :: '!' :: _ =>
    throw .lookAround
  | '?' :: 'P' :: '<' :: rest | '?' :: '<' :: rest =>
    let (name, rest) ← groupName rest
    .ok (← s.openCapture (some name), rest)
  | '?' :: rest =>
    let (flags, last, rest) ← readFlags s.flags s.flags [] false rest
    if last == ')' then
      .ok ({ s with flags, current.parts := none :: s.current.parts }, rest)
    else
      .ok ({ s with
        flags
        around := s.current :: s.around
        current := { outer := s.flags } }, rest)
  | rest => .ok (← s.openCapture none, rest)

def closeGroup (s : ParseState) : Except ParseError ParseState :=
  match s.around with
  | [] => .error .groupUnopened
  | outer :: around =>
    .ok { s with
      flags := s.current.outer
      current := outer.push s.current.close
      around }

def alternate (s : ParseState) : ParseState :=
  { s with
    current.branches := s.current.branch :: s.current.branches
    current.parts := [] }

/-- Repeats the last part. A `?` behind the count swaps its greed. -/
def repeatLast (s : ParseState) (least : Nat) (most : Option Nat) (cs : List Char) :
    Except ParseError (ParseState × List Char) :=
  match s.current.parts with
  | some item :: parts =>
    let (lazy, rest) := match cs with
      | '?' :: rest => (true, rest)
      | rest => (false, rest)
    let greedy := lazy == s.flags.swapGreed
    .ok ({ s with
      current.parts := some ⟨.times item.expr least most greedy, item.depth + 1⟩ :: parts }, rest)
  | _ => .error .nothingToRepeat

def push (s : ParseState) (expr : Expr) : ParseState :=
  { s with current := s.current.push ⟨expr, 0⟩ }

def pushSign (s : ParseState) (sign : Sign) : Except ParseError ParseState :=
  match sign with
  | .char c => .ok (s.push (.chars (s.flags.fold (.char c))))
  | .byte c =>
    if !s.flags.unicode && 128 ≤ c.toNat then .error .notText
    else .ok (s.push (.chars (s.flags.fold (.char c))))
  | .cls c => .ok (s.push (.chars c))
  | .look condition => .ok (s.push (.look condition))

end ParseState

/-- Reads a decimal number of at most 32 bits, with blanks around it; absent if there is no
digit. -/
def readDecimal (f : Flags) (fuel : Nat) (digits : List Char) (cs : List Char) :
    Except ParseError (Option Nat × List Char) :=
  match fuel, cs with
  | fuel + 1, c :: rest =>
    if c.isDigit then readDecimal f fuel (c :: digits) (f.skip rest) else finish cs
  | _, cs => finish cs
where
  finish (cs : List Char) : Except ParseError (Option Nat × List Char) :=
    let rest := f.skip (cs.dropWhile Text.isSpace)
    if digits.isEmpty then .ok (none, rest)
    else
      let n := digits.reverse.foldl (fun n c => n * 10 + (c.toNat - '0'.toNat)) 0
      if n < UInt32.size then .ok (some n, rest) else .error .repetition

/-- Reads a count behind its opening brace: `n`, `n,` or `n,m`. -/
def readCount (f : Flags) (cs : List Char) :
    Except ParseError (Nat × Option Nat × List Char) := do
  let number (cs : List Char) := readDecimal f cs.length [] (cs.dropWhile Text.isSpace)
  let (least?, rest) ← number (f.skip cs)
  let some least := least? | throw .repetition
  match rest with
  | '\x7d' :: rest => .ok (least, some least, f.skip rest)
  | ',' :: rest =>
    match f.skip rest with
    | '\x7d' :: rest => .ok (least, none, f.skip rest)
    | rest =>
      let (most?, rest) ← number rest
      match most?, rest with
      | some most, '\x7d' :: rest =>
        if most < least then throw .repetition
        .ok (least, some most, f.skip rest)
      | _, _ => throw .repetition
  | _ => throw .repetition

def lineLook (f : Flags) (start : Bool) : Look :=
  if f.multiLine then
    if f.wideLines then if start then .lineStartWide else .lineEndWide
    else if start then .lineStart else .lineEnd
  else if start then .textStart else .textEnd

def dotClass (f : Flags) : Except ParseError CharClass :=
  if !f.unicode then .error .notText
  else if f.dotAll then .ok .all
  else if f.wideLines then .ok .notLineEnd
  else .ok .notLineFeed

/-- Reads one sign of a text and what belongs to it. -/
def step [Engine] (s : ParseState) (c : Char) (cs : List Char) :
    Except ParseError (ParseState × List Char) := do
  match c with
  | '(' => s.openGroup cs
  | ')' => .ok (← s.closeGroup, cs)
  | '|' => .ok (s.alternate, cs)
  | '[' =>
    let (o, rest) ← openClass s.flags cs
    let (cls, depth, rest) ← bracketed s.flags (rest.length + 1) o [] rest
    .ok ({ s with current := s.current.push ⟨.chars cls, depth⟩ }, rest)
  | '?' => s.repeatLast 0 (some 1) cs
  | '*' => s.repeatLast 0 none cs
  | '+' => s.repeatLast 1 none cs
  | '\x7b' =>
    match s.current.parts with
    | some _ :: _ =>
      let (least, most, rest) ← readCount s.flags cs
      s.repeatLast least most rest
    | _ => throw .nothingToRepeat
  | '\\' =>
    let (sign, rest) ← escape s.flags cs
    .ok (← s.pushSign sign, rest)
  | '.' => .ok (s.push (.chars (← dotClass s.flags)), cs)
  | '^' => .ok (s.push (.look (lineLook s.flags true)), cs)
  | '$' => .ok (s.push (.look (lineLook s.flags false)), cs)
  | c => .ok (← s.pushSign (.char c), cs)

/-- Reads all signs of a text. -/
def readAll [Engine] (fuel : Nat) (s : ParseState) (cs : List Char) :
    Except ParseError ParseState :=
  match fuel with
  | 0 => .ok s
  | fuel + 1 =>
    match s.flags.skip cs with
    | [] => .ok s
    | c :: rest => do
      let (s, rest) ← step s c rest
      readAll fuel s rest

/-- Groups, repetitions, classes and choices may be nested this deep. -/
def maxDepth : Nat := 250

def Expr.parse [Engine] (cs : List Char) : Except ParseError Expr := do
  let s ← readAll (cs.length + 1) {} cs
  if !s.around.isEmpty then throw .groupUnclosed
  let whole := s.current.body
  if maxDepth < whole.depth then throw .tooDeep
  if !Engine.fits whole.expr then throw .tooLarge
  .ok whole.expr

end Telemetry.Regex
