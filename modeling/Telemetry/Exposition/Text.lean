import Telemetry.Decimal.Shortest
import Telemetry.Exposition.Name
/-!
# The text of a page of samples

Lines of the text format: one that gives the type of a family, and one for each sample with its
labels and value.
-/
namespace Telemetry.Exposition

/-- Escapes backslashes, double quotes and line feeds. -/
def escapeValue : List Char → List Char
  | [] => []
  | c :: cs =>
    if c = '\\' then '\\' :: '\\' :: escapeValue cs
    else if c = '"' then '\\' :: '"' :: escapeValue cs
    else if c = '\n' then '\\' :: 'n' :: escapeValue cs
    else c :: escapeValue cs

def quotedValue (value : String) : String :=
  String.ofList (escapeValue value.toList)

/-- A number on the page: the fewest digits that read back, never with an exponent, and signed
infinities. -/
def number (x : Float) : String :=
  let b := Decimal.Bits.ofFloat x
  if b.exponent = 2047 then
    if b.fraction ≠ 0 then "NaN" else if b.negative then "-Inf" else "+Inf"
  else
    let text :=
      if b.exponent = 0 ∧ b.fraction = 0 then "0"
      else (Decimal.Magnitude.ofBits b).shortest.positional
    if b.negative then "-" ++ text else text

def typeLine (name type : String) : String :=
  "# TYPE " ++ name ++ " " ++ type ++ "\n"

def labelText (label : String × String) : String :=
  label.1 ++ "=\"" ++ quotedValue label.2 ++ "\""

def labelsText (labels : LabelSet) : String :=
  if labels.isEmpty then "" else "\x7b" ++ Text.joinWith ',' (labels.map labelText) ++ "\x7d"

def sampleLine (name : String) (labels : LabelSet) (value : Float) : String :=
  name ++ labelsText labels ++ " " ++ number value ++ "\n"

end Telemetry.Exposition
