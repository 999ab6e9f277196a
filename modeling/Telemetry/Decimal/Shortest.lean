import Telemetry.Decimal.Binary
/-!
# The fewest digits that read back

The decimal of a double with as few digits as possible among those that are rounded to it; of
several with that many digits the one nearest to it, and of two equally near ones the greater.
-/
namespace Telemetry.Decimal

/-- The number `digits * 10 ^ exponent`. -/
structure Dec where
  digits : Nat
  exponent : Int
deriving DecidableEq, Repr

namespace Dec

/-- Moves zeros at the end of the digits to the exponent; `fuel` bounds their number. -/
def strip : (fuel : Nat) → Dec → Dec
  | 0, d => d
  | fuel + 1, d =>
    if d.digits % 10 = 0 ∧ d.digits ≠ 0 then strip fuel ⟨d.digits / 10, d.exponent + 1⟩ else d

/-- The digits of a number with a point: never with an exponent, without zeros behind the last
digit that counts. -/
def positional (d : Dec) : String :=
  let ds := Nat.toDigits 10 d.digits
  if 0 ≤ d.exponent then String.ofList (ds ++ List.replicate d.exponent.toNat '0')
  else
    let places := (-d.exponent).toNat
    if places < ds.length then
      String.ofList (ds.take (ds.length - places) ++ '.' :: ds.drop (ds.length - places))
    else String.ofList ('0' :: '.' :: (List.replicate (places - ds.length) '0' ++ ds))

end Dec

namespace Magnitude

/-- The decimal nearest to `x` among those on the grid `10 ^ exponent` that are rounded to `x`, if
there is one. Only the two grid points around `x` can be the nearest; the upper one wins a tie. -/
def onGrid? (x : Magnitude) (exponent : Int) : Option Dec :=
  -- Everything is scaled by `10 ^ (-exponent)` if the grid is finer than the integers.
  let fine := Nat.pow 10 (-exponent).toNat
  let coarse := Nat.pow 10 exponent.toNat
  let cell := coarse * x.unitDen
  let below := x.num * fine / cell
  let above := below + 1
  let scaled : Magnitude := { x with unitNum := x.unitNum * fine }
  let fits (d : Nat) := scaled.rounds (d * cell)
  let nearAbove := above * cell - x.num * fine ≤ x.num * fine - below * cell
  if fits above && (nearAbove || !fits below) then some ⟨above, exponent⟩
  else if fits below then some ⟨below, exponent⟩
  else none

/-- The exact decimal of `x`. -/
def exact (x : Magnitude) : Dec :=
  -- The denominator is a power of two, and `n / 2 ^ k = n * 5 ^ k / 10 ^ k`.
  let k := x.unitDen.log2
  ⟨x.num * Nat.pow 5 k, -(k : Int)⟩

/-- The decimal with the fewest digits. Seventeen always suffice. -/
def shortest (x : Magnitude) : Dec :=
  let top := x.decimalExponent
  let found := (List.range 17).findSome? fun (n : Nat) => x.onGrid? (top - ((n : Int) + 1))
  (found.getD x.exact).strip 1100

end Magnitude

end Telemetry.Decimal
