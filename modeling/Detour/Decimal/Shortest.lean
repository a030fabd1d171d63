/-!
# The shortest decimal that reads back

A finite positive binary number is `mantissa * 2 ^ exponent`. All reals between the midpoints to its
neighbours round to it, the midpoints themselves if the mantissa is even. Among the decimals in that
interval `shortest` takes one on the coarsest grid of powers of ten that has a point there, and of
that grid the point nearest to the number; of two points equally near it takes the even one.
-/

namespace Detour.Decimal

/-- A positive binary number and the distance to its lower neighbour. -/
structure Binary where
  mantissa : Nat
  exponent : Int
  /-- Whether the lower neighbour is only half as far away as the upper one. -/
  narrowBelow : Bool
  deriving DecidableEq, Repr

namespace Binary

/-- The count of fractions in a 64-bit floating-point number, which has 52 bits for them. -/
def fractionSize : Nat := 0x10000000000000

/-- The count of scales in a 64-bit floating-point number, which has 11 bits for them. -/
def scaleCount : Nat := 0x800

/-- The magnitude of a finite 64-bit floating-point number, from its bits. -/
def ofBits (bits : UInt64) : Binary :=
  let fraction := bits.toNat % fractionSize
  let scale := bits.toNat / fractionSize % scaleCount
  if scale = 0 then
    ⟨fraction, -1074, false⟩
  else
    ⟨fractionSize + fraction, Int.ofNat scale - 1075, fraction == 0 && scale != 1⟩

/-- The grid point nearest to a number among those that round to it, on the grid of multiples of
`10 ^ power`. Everything is compared on the common scale of quarters of the binary unit. -/
def nearestOnGrid? (x : Binary) (power : Int) : Option Nat :=
  let quarter := Nat.pow 2 (x.exponent - 2).toNat * Nat.pow 10 (-power).toNat
  let step := Nat.pow 10 power.toNat * Nat.pow 2 (2 - x.exponent).toNat
  let value := 4 * x.mantissa * quarter
  let low := value - (if x.narrowBelow then 1 else 2) * quarter
  let high := value + 2 * quarter
  let roundsBack (point : Nat) : Bool :=
    if x.mantissa % 2 = 0 then
      low ≤ point * step && point * step ≤ high
    else
      low < point * step && point * step < high
  let below := value / step
  let toBelow := value - below * step
  let toAbove := (below + 1) * step - value
  match roundsBack below, roundsBack (below + 1) with
  | false, false => none
  | true, false => some below
  | false, true => some (below + 1)
  | true, true =>
    if toBelow < toAbove || (toBelow == toAbove && below % 2 == 0) then
      some below
    else
      some (below + 1)

/-- The first hit on the grids from `10 ^ power` down to ever finer ones. -/
def shortestFrom (x : Binary) : Nat → Int → Nat × Int
  | 0, power => (0, power)
  | grids + 1, power =>
    match x.nearestOnGrid? power with
    | some point => (point, power)
    | none => x.shortestFrom grids (power - 1)

/-- The digits and the power of ten of the shortest decimal that reads back as a number. The powers
tried cover every 64-bit floating-point number. -/
def shortest (x : Binary) : Nat × Int :=
  x.shortestFrom 700 309

end Binary

end Detour.Decimal
