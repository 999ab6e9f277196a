import Telemetry.Decimal.Binary
/-!
# A fixed number of decimal places

Doubles with a set number of places, rounded from their exact values; a tie goes to the even digit.
-/
namespace Telemetry.Decimal

/-- The natural number nearest to a fraction, the even one of two equally near ones. -/
def roundDiv (num den : Nat) : Nat :=
  let q := num / den
  let r := num % den
  if 2 * r < den then q
  else if 2 * r = den then q + q % 2
  else q + 1

/-- A number of units of `10 ^ (-places)` with a point. -/
def placed (places n : Nat) : List Char :=
  let unit := Nat.pow 10 places
  let low := Nat.toDigits 10 (n % unit)
  Nat.toDigits 10 (n / unit) ++
    if places = 0 then [] else '.' :: (List.replicate (places - low.length) '0' ++ low)

/-- A double with a set number of places. -/
def fixed (places : Nat) (x : Float) : String :=
  let b := Bits.ofFloat x
  if b.exponent = 2047 then
    if b.fraction ≠ 0 then "NaN" else if b.negative then "-inf" else "inf"
  else
    let m := Magnitude.ofBits b
    let text := String.ofList (placed places (roundDiv (m.num * Nat.pow 10 places) m.unitDen))
    if b.negative then "-" ++ text else text

end Telemetry.Decimal
