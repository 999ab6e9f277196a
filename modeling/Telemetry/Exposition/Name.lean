import Telemetry.Kind
import Telemetry.Labels
import Telemetry.Text.Blank
/-!
# Names of samples

How a metric is named on a page of samples. Values that have a label name become labels of the
sample; all others stay in the name of its family.
-/
namespace Telemetry.Exposition

def isNameStart (c : Char) : Bool :=
  c.isAlpha || c == '_' || c == ':'

def isNameChar (c : Char) : Bool :=
  isNameStart c || c.isDigit

def isKeyStart (c : Char) : Bool :=
  c.isAlpha || c == '_'

def isKeyChar (c : Char) : Bool :=
  isKeyStart c || c.isDigit

/-- Puts an underscore in place of each character that may not stand where it does. -/
def mask (first later : Char → Bool) : List Char → List Char
  | [] => []
  | c :: cs => (if first c then c else '_') :: cs.map fun c => if later c then c else '_'

/-- A name of ASCII letters, digits, underscores and colons that starts with no digit. -/
def sanitizeName (name : String) : String :=
  String.ofList (mask isNameStart isNameChar name.toList)

/-- A key of ASCII letters, digits and underscores that starts with no digit. -/
def sanitizeKey (key : String) : String :=
  String.ofList (mask isKeyStart isKeyChar key.toList)

/-- The front value, if it has no name. -/
def unnamedFront (l : Labels) : Option String :=
  if l.frontName.isNone then l.frontValue else none

/-- The values behind the base name for which there are no names left. -/
def unnamedBack (l : Labels) : List String :=
  l.backValues.drop l.backNames.length

/-- The parts of a family's name: the application unless it is blank, the base name between the
values without names, the suffix of the kind. -/
def familyParts (app : Option String) (l : Labels) (kind : Kind) : List String :=
  (app.filter (!Text.isBlank ·)).toList ++ (unnamedFront l).toList ++ l.name :: unnamedBack l ++
    if kind.suffix.isEmpty then [] else [kind.suffix]

def familyName (app : Option String) (l : Labels) (kind : Kind) : String :=
  sanitizeName (Text.joinWith '_' (familyParts app l kind))

abbrev LabelSet := List (String × String)

def labelPairs (l : Labels) : LabelSet :=
  l.pairs.map fun (name, value) => (sanitizeKey name, value)

theorem length_mask (first later : Char → Bool) (cs : List Char) :
    (mask first later cs).length = cs.length := by
  cases cs <;> simp [mask]

theorem mask_of_valid {first later : Char → Bool} {c : Char} {cs : List Char}
    (hc : first c = true) (hcs : ∀ d ∈ cs, later d = true) :
    mask first later (c :: cs) = c :: cs := by
  simp only [mask, hc, if_true, List.cons.injEq, true_and]
  exact (List.map_congr_left fun d hd => if_pos (hcs d hd)).trans (List.map_id' cs)

end Telemetry.Exposition
