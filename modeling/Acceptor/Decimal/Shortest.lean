/-! # Shortest decimals

The decimal that stands for a double: of all decimals that read back as it, one with the fewest
digits, and of those the nearest. All arithmetic is on natural numbers and exact. A double is a
significand times a power of two (`Binary`); the numbers that read back as it form an interval
around it, whose ends belong to it when the significand is even.
-/

namespace Acceptor

/-- A positive finite double: `significand` · 2 ^ `exponent`. -/
structure Binary where
  significand : Nat
  exponent : Int
deriving DecidableEq, Repr

/-- The decimal `coefficient` · 10 ^ `exponent`. -/
structure Decimal where
  coefficient : Nat
  exponent : Int
deriving DecidableEq, Repr

namespace Binary

/-- The least exponent of a double. -/
def leastExponent : Int := -1074

/-- The significand of a power of two. -/
def powerSignificand : Nat := 0x10000000000000

/-- The double with the given bits, its sign aside, unless it is zero, infinite or undefined. -/
def ofBits? (bits : UInt64) : Option Binary :=
  let field := (bits >>> 52).toNat % 2048
  let fraction := bits.toNat % powerSignificand
  if field = 2047 then none
  else if field = 0 then if fraction = 0 then none else some ⟨fraction, leastExponent⟩
  else some ⟨fraction + powerSignificand, field - 1075⟩

/-- The distance to the lower end of the interval in quarters of the last binary place; below a
power of two doubles are twice as dense. -/
def below (binary : Binary) : Nat :=
  if binary.significand = powerSignificand && binary.exponent != leastExponent then 1 else 2

/-- The ends of a double's interval, the double itself and one step of a decimal grid, all in one
unit of measure. -/
structure Scaled where
  low : Nat
  value : Nat
  high : Nat
  step : Nat
  inclusive : Bool

/-- Measures the double against the grid of multiples of 10 ^ `place`. -/
def scale (binary : Binary) (place : Int) : Scaled :=
  let quarter := binary.exponent - 2
  let unit := Nat.pow 2 quarter.toNat * Nat.pow 10 (-place).toNat
  { low := (4 * binary.significand - binary.below) * unit
    value := 4 * binary.significand * unit
    high := (4 * binary.significand + 2) * unit
    step := Nat.pow 2 (-quarter).toNat * Nat.pow 10 place.toNat
    inclusive := binary.significand % 2 = 0 }

/-- The multiple reads back as the double. -/
def Scaled.holds (scaled : Scaled) (multiple : Nat) : Bool :=
  let point := multiple * scaled.step
  if scaled.inclusive then scaled.low ≤ point && point ≤ scaled.high
  else scaled.low < point && point < scaled.high

/-- The multiple nearest to the double that reads back as it; an exact half goes to the even one.
If any multiple reads back, one of the double's two neighbours does. -/
def Scaled.nearest? (scaled : Scaled) : Option Nat :=
  let lower := scaled.value / scaled.step
  let upper := lower + 1
  match scaled.holds lower, scaled.holds upper with
  | true, true =>
    let double := 2 * scaled.value
    let middle := (lower + upper) * scaled.step
    some (if double < middle then lower else if middle < double then upper
      else if lower % 2 = 0 then lower else upper)
  | true, false => some lower
  | false, true => some upper
  | false, false => none

/-- The coarsest grid worth trying: no double is as great as 10 ^ 309. -/
def coarsestPlace : Int := 309

/-- How many grids there are down to the finest one that any double needs, 10 ^ -324. -/
def placeCount : Nat := 634

/-- The shortest decimal: on the coarsest grid of powers of ten that has one. -/
def shortest? (binary : Binary) : Option Decimal :=
  (List.range placeCount).findSome? fun (offset : Nat) =>
    let place := coarsestPlace - offset
    (binary.scale place).nearest?.map fun coefficient => ⟨coefficient, place⟩

end Binary

end Acceptor
