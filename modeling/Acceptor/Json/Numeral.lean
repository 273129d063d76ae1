import Acceptor.Json.Failure

/-! # Numbers inside JSON

A numeral is read as it is written, digit by digit, and evaluated afterwards. Evaluation collects
digits into one word of 64 bits as long as they fit: further digits of the whole part only raise the
exponent and further decimals are dropped. A numeral without decimals and exponent that fits is an
integer; every other is the collected significand as a double, multiplied or divided by a power of
ten, which need not be the double nearest to what is written.
-/

namespace Acceptor.Json

/-- The exponent of a numeral. -/
structure Exponent where
  negative : Bool
  digits : List Char
deriving DecidableEq, Repr

/-- A numeral as it is written; without decimals `decimals` is empty. -/
structure Numeral where
  negative : Bool
  whole : List Char
  decimals : List Char
  exponent : Option Exponent
deriving DecidableEq, Repr

/-- What a numeral stands for. -/
inductive Number
  | integer (value : Int)
  | float (value : Float)

/-- The digits at the start of a text, and what follows them. -/
def spanDigits (text : List Char) : List Char × List Char :=
  (text.takeWhile Char.isDigit, text.dropWhile Char.isDigit)

/-- The digits end where something else begins. -/
theorem spanDigits_append {digits rest : List Char} (all : ∀ digit ∈ digits, digit.isDigit = true)
    (stop : ∀ next ∈ rest.head?, next.isDigit = false) :
    spanDigits (digits ++ rest) = (digits, rest) := by
  induction digits with
  | nil => cases rest <;> simp_all [spanDigits]
  | cons digit digits ih => simp_all [spanDigits]

/-- The digit starts a numeral, as does a minus sign. -/
def startsNumeral (character : Char) : Bool := character = '-' || character.isDigit

namespace Numeral

/-- The whole part: a zero alone, or digits without a zero in front. At the end of the text reading
fails with `ended`. -/
def readWhole (ended : Cause) : Reader (List Char)
  | [] => .error (.here ended [])
  | '0' :: rest =>
    if (rest.head?.map Char.isDigit).getD false then .error (.next .invalidNumber rest)
    else .ok (['0'], rest)
  | text =>
    let (digits, rest) := spanDigits text
    if digits.isEmpty then .error (.next .invalidNumber text) else .ok (digits, rest)

/-- The decimals behind a point, at least one; none without a point. -/
def readDecimals (ended : Cause) : Reader (List Char)
  | '.' :: text =>
    let (digits, rest) := spanDigits text
    if digits.isEmpty then .error (.next (if text.isEmpty then ended else .invalidNumber) text)
    else .ok (digits, rest)
  | text => .ok ([], text)

/-- The sign of an exponent, if there is one. -/
def readSign : List Char → Bool × List Char
  | '+' :: rest => (false, rest)
  | '-' :: rest => (true, rest)
  | rest => (false, rest)

/-- The exponent behind its mark, with at least one digit; none without a mark. -/
def readExponent (ended : Cause) (text : List Char) : Except Failure (Reading (Option Exponent)) :=
  match text with
  | [] => .ok (none, [])
  | mark :: rest =>
    if mark = 'e' || mark = 'E' then
      let (negative, text) := readSign rest
      let (digits, rest) := spanDigits text
      if text.isEmpty then .error (.here ended [])
      else if digits.isEmpty then .error (.next .invalidNumber text)
      else .ok (some ⟨negative, digits⟩, rest)
    else .ok (none, text)

/-- A numeral, failing with `ended` where the text ends before a digit that is needed. -/
def read (ended : Cause) (text : List Char) : Except Failure (Reading Numeral) := do
  let (negative, text) := match text with
    | '-' :: rest => (true, rest)
    | text => (false, text)
  let (whole, text) ← readWhole ended text
  let (decimals, text) ← readDecimals ended text
  let (exponent, text) ← readExponent ended text
  .ok (⟨negative, whole, decimals, exponent⟩, text)

/-- Appends digits to a number as long as it stays within `limit`, and what digits are left. -/
def collect (limit : Nat) : Nat → List Char → Nat × List Char
  | number, [] => (number, [])
  | number, digit :: rest =>
    let longer := number * 10 + (digit.toNat - 48)
    if limit < longer then (number, digit :: rest) else collect limit longer rest

/-- The greatest significand. -/
def greatestSignificand : Nat := 0xffffffffffffffff

/-- The greatest magnitude of a negative integer. -/
def greatestNegative : Nat := 0x8000000000000000

/-- The greatest exponent that is read to its end. -/
def greatestExponent : Nat := 0x7fffffff

/-- The greatest power of ten among the doubles. -/
def greatestPower : Nat := 308

/-- A power of ten as the nearest double. -/
def powerOfTen (power : Nat) : Float := Float.ofScientific 1 false power

/-- Divides by a power of ten, in steps of the greatest one as long as there is anything left. -/
def divideByPower (value : Float) (power : Nat) : Float :=
  if power ≤ greatestPower then value / powerOfTen power
  else if value == 0 then value
  else divideByPower (value / powerOfTen greatestPower) (power - greatestPower)
termination_by power
decreasing_by
  unfold greatestPower at *
  omega

/-- The significand times a power of ten, unless it is out of range. -/
def scaled? (significand : Nat) (power : Int) : Option Float :=
  let value := (UInt64.ofNat significand).toFloat
  if power < 0 then some (divideByPower value power.natAbs)
  else if power.natAbs ≤ greatestPower then
    let product := value * powerOfTen power.natAbs
    if product.isInf then none else some product
  else if significand = 0 then some value
  else none

/-- The value of a numeral that stands in front of `rest`. -/
def value (numeral : Numeral) (rest : List Char) : Except Failure Number :=
  let signed (value : Float) : Number := .float (if numeral.negative then -value else value)
  let (significand, surplus) := collect greatestSignificand 0 numeral.whole
  match numeral.decimals, numeral.exponent, surplus with
  | [], none, [] =>
    if !numeral.negative then .ok (.integer significand)
    else if significand = 0 || greatestNegative < significand then
      .ok (signed (UInt64.ofNat significand).toFloat)
    else .ok (.integer (-significand))
  | decimals, exponent, surplus =>
    let (significand, dropped) := collect greatestSignificand significand decimals
    let shift : Int := (surplus.length : Int) - (decimals.length - dropped.length : Nat)
    let exponent := exponent.getD ⟨false, []⟩
    let (power, unread) := collect greatestExponent 0 exponent.digits
    if !unread.isEmpty then
      if significand ≠ 0 && !exponent.negative then
        .error (.here .numberOutOfRange (unread.tail ++ rest))
      else .ok (signed 0)
    else
      match scaled? significand (if exponent.negative then shift - power else shift + power) with
      | some value => .ok (signed value)
      | none => .error (.here .numberOutOfRange rest)

end Numeral

namespace Number

/-- The double nearest to a number. -/
def toFloat : Number → Float
  | integer value =>
    let magnitude := (UInt64.ofNat value.natAbs).toFloat
    if value < 0 then -magnitude else magnitude
  | float value => value

def found : Number → Found
  | integer value => .integer value
  | float value => .float value

/-- A number that matters: it is read and evaluated. -/
def read (text : List Char) : Except Failure (Reading Number) := do
  let (numeral, rest) ← Numeral.read .endInValue text
  let number ← numeral.value rest
  .ok (number, rest)

end Number

end Acceptor.Json
