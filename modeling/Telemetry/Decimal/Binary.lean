/-!
# Doubles as exact fractions

The bits of a finite double as a fraction of naturals, with the interval of reals that are rounded
to it. All decimal text is made from these by exact arithmetic.
-/
namespace Telemetry.Decimal

/-- The parts of the bits of a double. -/
structure Bits where
  negative : Bool
  exponent : Nat
  fraction : Nat
deriving DecidableEq, Repr

def Bits.ofFloat (x : Float) : Bits :=
  let n := x.toBits.toNat
  { negative := n / Nat.pow 2 63 % 2 == 1
    exponent := n / Nat.pow 2 52 % Nat.pow 2 11
    fraction := n % Nat.pow 2 52 }

/-- A double that is not negative, in units of a quarter of its last place: the unit is
`unitNum / unitDen` and the double is `4 * mantissa` units. -/
structure Magnitude where
  mantissa : Nat
  unitNum : Nat
  unitDen : Nat
  /-- The gap to the next double below is half the gap to the next one above. -/
  narrowBelow : Bool
deriving DecidableEq, Repr

namespace Magnitude

def ofBits (b : Bits) : Magnitude :=
  let mantissa := if b.exponent = 0 then b.fraction else Nat.pow 2 52 + b.fraction
  -- The last place is worth `2 ^ (scale - 1075)`.
  let scale := max b.exponent 1
  { mantissa
    unitNum := Nat.pow 2 (scale - 1077)
    unitDen := Nat.pow 2 (1077 - scale)
    narrowBelow := b.fraction == 0 && 1 < b.exponent }

def num (x : Magnitude) : Nat :=
  4 * x.mantissa * x.unitNum

/-- Whether the fraction `a / x.unitDen` lies among the reals that are rounded to `x`: between the
points halfway to both neighbours, which belong to the even one of the two. -/
def rounds (x : Magnitude) (a : Nat) : Bool :=
  let low := (4 * x.mantissa - if x.narrowBelow then 1 else 2) * x.unitNum
  let high := (4 * x.mantissa + 2) * x.unitNum
  if x.mantissa % 2 = 0 then low ≤ a && a ≤ high else low < a && a < high

/-- The least `k` for which the magnitude is below `10 ^ k`; only for magnitudes above zero. -/
def decimalExponent (x : Magnitude) : Int :=
  if x.unitDen ≤ x.num then ((Nat.toDigits 10 (x.num / x.unitDen)).length : Int)
  else 1 - ((Nat.toDigits 10 ((x.unitDen - 1) / x.num)).length : Int)

theorem unitDen_pos (b : Bits) : 0 < (ofBits b).unitDen :=
  Nat.pow_pos (by decide)

end Magnitude

end Telemetry.Decimal
