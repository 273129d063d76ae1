import Acceptor.Decimal.Shortest

/-! # Numbers as text

Doubles with their shortest digits, positional where the first digit stands between the fifth
decimal place and the quadrillions, with an exponent elsewhere. A positional number has at least one
decimal, and minus zero keeps its sign. Infinities and the undefined number have no digits.
-/

namespace Acceptor

namespace Decimal

/-- The least place of the first digit in positional notation. -/
def positionalLow : Int := -5

/-- The greatest place of the first digit in positional notation. -/
def positionalHigh : Int := 15

/-- Digits of which the first stands at 10 ^ `place`, around a point. -/
def positional (digits : List Char) (place : Int) : List Char :=
  if place < 0 then ['0', '.'] ++ List.replicate (-place - 1).toNat '0' ++ digits
  else
    let whole := place.toNat + 1
    let decimals := digits.drop whole
    digits.take whole ++ List.replicate (whole - digits.length) '0' ++ ['.'] ++
      if decimals.isEmpty then ['0'] else decimals

/-- Digits with a point behind the first, whose place follows. -/
def scientific (digits : List Char) (place : Int) : List Char :=
  let decimals := digits.drop 1
  let sign := if place < 0 then '-' else '+'
  digits.take 1 ++ (if decimals.isEmpty then [] else '.' :: decimals) ++
    ['e', sign] ++ Nat.toDigits 10 place.natAbs

/-- The text of a decimal other than zero. -/
def text (decimal : Decimal) : List Char :=
  let digits := Nat.toDigits 10 decimal.coefficient
  let place := decimal.exponent + digits.length - 1
  if positionalLow ≤ place && place ≤ positionalHigh then positional digits place
  else scientific digits place

/-- The text of a double, if it is finite. -/
def floatText? (value : Float) : Option (List Char) :=
  let bits := value.toBits
  let sign := if bits >>> 63 = 0 then [] else ['-']
  if bits <<< 1 = 0 then some (sign ++ ['0', '.', '0'])
  else ((Binary.ofBits? bits).bind Binary.shortest?).map fun decimal => sign ++ decimal.text

end Decimal

end Acceptor
