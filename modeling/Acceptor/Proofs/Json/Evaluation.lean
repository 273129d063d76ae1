import Acceptor.Json.Numeral
import Acceptor.Proofs.Decimal.Rounding

/-! # What numerals are worth

The double of a numeral (`Numeral.double?`), said by the number that its leading digits spell and
the power of ten that goes with them. Numerals are evaluated to it (`Numeral.value_toFloat`). It
changes its sign with a minus sign (`Numeral.value_opposite`), and for integers of up to 53 bits it
is the number itself (`Numeral.number?_double?_of_integer`).
-/

namespace Acceptor.Json

/-- The number that digits spell. -/
def spelled (digits : List Char) : ℕ := Nat.ofDigitChars 10 digits 0

theorem spelled_concat (digits : List Char) (digit : Char) :
    spelled (digits ++ [digit]) = spelled digits * 10 + (digit.toNat - 48) := by
  rw [spelled, Nat.ofDigitChars_append, Nat.mul_comm]
  rfl

/-- Further digits make no number less. -/
theorem spelled_le_append (digits further : List Char) :
    spelled digits ≤ spelled (digits ++ further) := by
  induction further using List.reverseRecOn with
  | nil => rw [List.append_nil]
  | append_singleton earlier digit ih =>
    rw [← List.append_assoc, spelled_concat]
    omega

/-- The number that an exponent spells. -/
def Exponent.number (exponent : Exponent) : ℤ :=
  if exponent.negative then -spelled exponent.digits else spelled exponent.digits

namespace Numeral

/-- The exponent that is written behind the digits, zero if there is none. -/
def writtenExponent (numeral : Numeral) : ℤ := (numeral.exponent.map Exponent.number).getD 0

/-- The number that a numeral spells, its sign aside. -/
def exactMagnitude (numeral : Numeral) : ℚ :=
  spelled (numeral.whole ++ numeral.decimals) *
    10 ^ (numeral.writtenExponent - numeral.decimals.length)

/-- The number that a numeral spells, exactly. -/
def exact (numeral : Numeral) : ℚ :=
  if numeral.negative then -numeral.exactMagnitude else numeral.exactMagnitude

/-! ## The double of a numeral -/

/-- How many digits can be put behind others before the number that all of them spell exceeds
`limit`. -/
def fitting (limit : ℕ) (before digits : List Char) : ℕ :=
  Nat.findGreatest (fun count => spelled (before ++ digits.take count) ≤ limit) digits.length

/-- The whole digits that are kept: as many as fit 64 bits. -/
def wholeKept (numeral : Numeral) : List Char :=
  numeral.whole.take (fitting (2 ^ 64 - 1) [] numeral.whole)

/-- The decimals that are kept: as many as still fit behind them. -/
def decimalsKept (numeral : Numeral) : List Char :=
  numeral.decimals.take (fitting (2 ^ 64 - 1) numeral.wholeKept numeral.decimals)

/-- The number that all digits spell that are kept. -/
def significand (numeral : Numeral) : ℕ := spelled (numeral.wholeKept ++ numeral.decimalsKept)

/-- The power of ten that goes with the significand: whole digits that are not kept count for it and
decimals that are kept against it. -/
def power (numeral : Numeral) : ℤ :=
  numeral.writtenExponent + (numeral.whole.length - numeral.wholeKept.length : ℕ) -
    numeral.decimalsKept.length

/-- Nothing but whole digits, which spell a number of 64 bits. -/
def IsPlain (numeral : Numeral) : Prop :=
  numeral.decimals = [] ∧ numeral.exponent = none ∧ spelled numeral.whole ≤ 2 ^ 64 - 1

instance : DecidablePred IsPlain := fun numeral =>
  inferInstanceAs (Decidable (numeral.decimals = [] ∧ numeral.exponent = none ∧
    spelled numeral.whole ≤ 2 ^ 64 - 1))

/-- A double divided by the greatest power of ten that is a double. -/
def dividedByGreatest (value : Float) : Float := value / Float.ofScientific 1 false 308

/-- A double divided by a power of ten: by the greatest one as often as need be, and by what is left
of the power in the end. -/
def dividedBy (value : Float) (places : ℕ) : Float :=
  let steps := (places - 1) / 308
  dividedByGreatest^[steps] value / Float.ofScientific 1 false (places - 308 * steps)

/-- A significand as a double, multiplied or divided by a power of ten, unless that is too great. -/
def product? (significand : ℕ) (power : ℤ) : Option Float :=
  let value := (UInt64.ofNat significand).toFloat
  if power < 0 then some (dividedBy value power.natAbs)
  else if power ≤ 308 then
    let product := value * Float.ofScientific 1 false power.natAbs
    if product.isInf then none else some product
  else if significand = 0 then some 0
  else none

/-- The double of a numeral, its sign aside, unless it is out of range. An exponent of at least
2 ^ 31, or at most its opposite, decides alone what becomes of a significand. -/
def magnitude? (numeral : Numeral) : Option Float :=
  if numeral.IsPlain then some (UInt64.ofNat (spelled numeral.whole)).toFloat
  else if 2 ^ 31 ≤ numeral.writtenExponent then
    if numeral.significand = 0 then some 0 else none
  else if numeral.writtenExponent ≤ -2 ^ 31 then some 0
  else product? numeral.significand numeral.power

/-- The double that a numeral stands for, unless it is out of range. -/
def double? (numeral : Numeral) : Option Float :=
  numeral.magnitude?.map fun magnitude => if numeral.negative then -magnitude else magnitude

/-! ## Collecting digits -/

theorem fitting_le (limit : ℕ) (before digits : List Char) :
    fitting limit before digits ≤ digits.length :=
  Nat.findGreatest_le _

theorem exceeds_of_fitting_lt {limit count : ℕ} {before digits : List Char}
    (more : fitting limit before digits < count) (few : count ≤ digits.length) :
    limit < spelled (before ++ digits.take count) := by
  have most := Nat.findGreatest_eq_iff.mp (rfl : fitting limit before digits = _)
  exact Nat.lt_of_not_le (most.2.2 more few)

theorem spelled_take_fitting_le {limit : ℕ} {before : List Char} (fits : spelled before ≤ limit)
    (digits : List Char) :
    spelled (before ++ digits.take (fitting limit before digits)) ≤ limit := by
  have most := Nat.findGreatest_eq_iff.mp (rfl : fitting limit before digits = _)
  by_cases none : fitting limit before digits = 0
  · rwa [none, List.take_zero, List.append_nil]
  · exact most.2.1 none

theorem fitting_of_exceeds {limit : ℕ} {before rest : List Char} {digit : Char}
    (exceeds : limit < spelled (before ++ [digit])) : fitting limit before (digit :: rest) = 0 := by
  refine Nat.findGreatest_eq_zero_iff.mpr fun count positive _ fits => ?_
  obtain ⟨fewer, rfl⟩ := Nat.exists_eq_succ_of_ne_zero (Nat.ne_of_gt positive)
  rw [List.take_succ_cons, List.append_cons] at fits
  have more := spelled_le_append (before ++ [digit]) (rest.take fewer)
  omega

theorem fitting_of_fits {limit : ℕ} {before rest : List Char} {digit : Char}
    (fits : spelled (before ++ [digit]) ≤ limit) :
    fitting limit before (digit :: rest) = fitting limit (before ++ [digit]) rest + 1 := by
  refine Nat.findGreatest_eq_iff.mpr ⟨Nat.succ_le_succ (fitting_le ..), fun _ => ?_, ?_⟩
  · rw [List.take_succ_cons, List.append_cons]
    exact spelled_take_fitting_le fits rest
  · intro count more few
    obtain ⟨fewer, rfl⟩ := Nat.exists_eq_succ_of_ne_zero (Nat.ne_of_gt (Nat.zero_lt_of_lt more))
    rw [List.take_succ_cons, List.append_cons]
    exact Nat.not_le_of_lt
      (exceeds_of_fitting_lt (Nat.lt_of_succ_lt_succ more) (Nat.le_of_succ_le_succ few))

/-- Digits all fit exactly if the number that they spell does. -/
theorem fitting_eq_length_iff {limit : ℕ} {before digits : List Char}
    (fits : spelled before ≤ limit) :
    fitting limit before digits = digits.length ↔ spelled (before ++ digits) ≤ limit := by
  constructor
  · intro all
    have within := spelled_take_fitting_le fits digits
    rwa [all, List.take_length] at within
  · intro within
    refine (fitting_le ..).antisymm (Nat.le_findGreatest (Nat.le_refl _) ?_)
    rwa [List.take_length]

/-- Collecting digits takes as many as fit. -/
theorem collect_eq (limit : ℕ) (before digits : List Char) :
    collect limit (spelled before) digits =
      (spelled (before ++ digits.take (fitting limit before digits)),
        digits.drop (fitting limit before digits)) := by
  induction digits generalizing before with
  | nil => simp [collect, fitting]
  | cons digit rest ih =>
    rw [collect, ← spelled_concat]
    by_cases fits : spelled (before ++ [digit]) ≤ limit
    · rw [if_neg (Nat.not_lt.mpr fits), ih, fitting_of_fits fits, List.take_succ_cons,
        ← List.append_cons, List.drop_succ_cons]
    · rw [if_pos (Nat.lt_of_not_le fits), fitting_of_exceeds (Nat.lt_of_not_le fits),
        List.take_zero, List.append_nil, List.drop_zero]

theorem collect_of_fits {limit : ℕ} (before : List Char) {digits : List Char}
    (fits : spelled (before ++ digits) ≤ limit) :
    collect limit (spelled before) digits = (spelled (before ++ digits), []) := by
  have before_fits := (spelled_le_append before digits).trans fits
  rw [collect_eq, (fitting_eq_length_iff before_fits).mpr fits, List.take_length, List.drop_length]

theorem collect_of_exceeds {limit : ℕ} (before : List Char) {digits : List Char}
    (fits : spelled before ≤ limit) (exceeds : limit < spelled (before ++ digits)) :
    (collect limit (spelled before) digits).2.isEmpty = false := by
  have few : fitting limit before digits < digits.length :=
    (fitting_le ..).lt_of_ne
      (mt (fitting_eq_length_iff fits).mp (Nat.not_le_of_lt exceeds))
  rw [collect_eq, List.isEmpty_eq_false_iff, ← List.length_pos_iff, List.length_drop]
  exact Nat.sub_pos_of_lt few

/-! ## Powers of ten -/

theorem dividedBy_of_le {value : Float} {places : ℕ} (few : places ≤ 308) :
    dividedBy value places = value / Float.ofScientific 1 false places := by
  have steps : (places - 1) / 308 = 0 := Nat.div_eq_of_lt (by omega)
  rw [dividedBy, steps]
  rfl

theorem dividedBy_of_gt {value : Float} {places : ℕ} (many : 308 < places) :
    dividedBy value places = dividedBy (dividedByGreatest value) (places - 308) := by
  have steps : (places - 1) / 308 = (places - 308 - 1) / 308 + 1 := by omega
  have left : places - 308 * ((places - 308 - 1) / 308 + 1) =
      places - 308 - 308 * ((places - 308 - 1) / 308) := by omega
  simp only [dividedBy, steps, Function.iterate_succ_apply, left]

/-- Once nothing is left, nothing changes any more. -/
theorem dividedBy_zero {value : Float} (isZero : (value == 0) = true) (places : ℕ) :
    dividedBy value places = value := by
  have step {power : ℕ} (small : power ≤ 308) : value / Float.ofScientific 1 false power = value :=
    (Double.approximates_powerOfTen small).zero_div isZero
  have fixed : dividedByGreatest value = value := step (Nat.le_refl 308)
  rw [dividedBy, Function.iterate_fixed fixed]
  exact step (by omega)

theorem divideByPower_eq (value : Float) (places : ℕ) :
    divideByPower value places = dividedBy value places := by
  fun_induction divideByPower value places with
  | case1 value places few => exact (dividedBy_of_le few).symm
  | case2 value places many isZero => exact (dividedBy_zero isZero places).symm
  | case3 value places many _ ih =>
    rw [ih]
    exact (dividedBy_of_gt (Nat.lt_of_not_le many)).symm

theorem scaled?_eq (significand : ℕ) (power : ℤ) :
    scaled? significand power = product? significand power := by
  have near (positive : ¬ power < 0) : power.natAbs ≤ greatestPower ↔ power ≤ 308 := by
    rw [greatestPower]
    omega
  rw [scaled?, product?]
  split
  · rw [divideByPower_eq]
  · next positive =>
    simp only [near positive, powerOfTen]
    split
    · rfl
    · split
      · next zero =>
        rw [zero]
        rfl
      · rfl

/-! ## Exponents -/

/-- An exponent that is not read to its end. -/
theorem number_of_great {exponent : Exponent} (great : greatestExponent < spelled exponent.digits) :
    exponent.negative = false ∧ 2 ^ 31 ≤ exponent.number ∨
      exponent.negative = true ∧ ¬ 2 ^ 31 ≤ exponent.number ∧ exponent.number ≤ -2 ^ 31 := by
  rw [greatestExponent] at great
  rw [Exponent.number]
  cases exponent.negative <;> simp <;> omega

/-- One that is. -/
theorem number_of_not_great {exponent : Exponent}
    (small : ¬ greatestExponent < spelled exponent.digits) :
    ¬ 2 ^ 31 ≤ exponent.number ∧ ¬ exponent.number ≤ -2 ^ 31 := by
  rw [greatestExponent] at small
  rw [Exponent.number]
  split <;> omega

theorem number_add (exponent : Exponent) (shift : ℤ) :
    exponent.number + shift = if exponent.negative then shift - spelled exponent.digits
      else shift + spelled exponent.digits := by
  rw [Exponent.number]
  split <;> omega

/-- Without an exponent, one without digits is read. -/
theorem number_getD (numeral : Numeral) :
    (numeral.exponent.getD ⟨false, []⟩).number = numeral.writtenExponent := by
  rw [writtenExponent]
  cases numeral.exponent <;> rfl

theorem power_eq (numeral : Numeral) :
    numeral.power = numeral.writtenExponent +
      ((numeral.whole.drop (fitting (2 ^ 64 - 1) [] numeral.whole)).length -
        (numeral.decimals.length - (numeral.decimals.drop
          (fitting (2 ^ 64 - 1) numeral.wholeKept numeral.decimals)).length : ℕ)) := by
  have whole := fitting_le (2 ^ 64 - 1) [] numeral.whole
  have decimals := fitting_le (2 ^ 64 - 1) numeral.wholeKept numeral.decimals
  rw [power, decimalsKept, List.length_take, List.length_drop, List.length_drop]
  nth_rewrite 1 [wholeKept]
  rw [List.length_take]
  omega

/-! ## Evaluation -/

/-- A negative integer is the opposite of its magnitude. -/
theorem toFloat_integer {magnitude : ℕ} (positive : magnitude ≠ 0) :
    (Number.integer (-magnitude)).toFloat = -(UInt64.ofNat magnitude).toFloat := by
  rw [Number.toFloat, Int.natAbs_neg, Int.natAbs_natCast]
  exact if_pos (by omega)

theorem value_of_plain {numeral : Numeral} (plain : numeral.IsPlain) (rest : List Char) :
    (numeral.value rest).toOption.map Number.toFloat = numeral.double? := by
  have ⟨decimals, exponent, fits⟩ := plain
  have collected : collect greatestSignificand 0 numeral.whole = (spelled numeral.whole, []) :=
    collect_of_fits [] fits
  rw [double?, magnitude?, if_pos plain, value]
  simp only [collected, decimals, exponent]
  cases numeral.negative with
  | false => rfl
  | true =>
    simp only [Bool.not_true, Bool.false_eq_true, if_false, if_true, Option.map_some]
    split
    · rfl
    · next integer =>
      have positive : spelled numeral.whole ≠ 0 := by
        intro zero
        simp [zero] at integer
      exact congrArg some (toFloat_integer positive)

theorem value_of_not_plain {numeral : Numeral} (noInteger : ¬ numeral.IsPlain) (rest : List Char) :
    (numeral.value rest).toOption.map Number.toFloat = numeral.double? := by
  have whole : collect greatestSignificand 0 numeral.whole = (spelled numeral.wholeKept, _) :=
    collect_eq (2 ^ 64 - 1) [] numeral.whole
  have decimals : collect greatestSignificand (spelled numeral.wholeKept) numeral.decimals =
      (numeral.significand, _) :=
    collect_eq (2 ^ 64 - 1) numeral.wholeKept numeral.decimals
  rw [double?, magnitude?, if_neg noInteger, value]
  simp only [whole]
  split
  · next none absent all =>
    refine absurd ⟨none, absent, ?_⟩ noInteger
    rw [List.drop_eq_nil_iff] at all
    exact (fitting_eq_length_iff (Nat.zero_le _)).mp ((fitting_le ..).antisymm all)
  rw [power_eq, ← number_getD]
  generalize numeral.exponent.getD ⟨false, []⟩ = exponent
  simp only [decimals, number_add]
  by_cases great : greatestExponent < spelled exponent.digits
  · have unread : (collect greatestExponent 0 exponent.digits).2.isEmpty = false :=
      collect_of_exceeds [] (Nat.zero_le _) great
    simp only [unread]
    obtain ⟨sign, above⟩ | ⟨sign, notAbove, below⟩ := number_of_great great
    · rw [if_pos above, sign]
      by_cases zero : numeral.significand = 0
      · rw [zero]
        rfl
      · rw [if_neg zero, decide_eq_true zero]
        rfl
    · rw [if_neg notAbove, if_pos below, sign, Bool.not_true, Bool.and_false]
      rfl
  · have read : collect greatestExponent 0 exponent.digits = (spelled exponent.digits, []) :=
      collect_of_fits [] (Nat.le_of_not_lt great)
    obtain ⟨notAbove, notBelow⟩ := number_of_not_great great
    rw [if_neg notAbove, if_neg notBelow, ← scaled?_eq]
    simp only [read]
    cases scaled? numeral.significand _ <;> rfl

/-- The value of a numeral is its double, whatever follows. -/
theorem value_toFloat (numeral : Numeral) (rest : List Char) :
    (numeral.value rest).toOption.map Number.toFloat = numeral.double? := by
  by_cases plain : numeral.IsPlain
  · exact value_of_plain plain rest
  · exact value_of_not_plain plain rest

/-- With a minus sign in front, a numeral has the opposite value, and none if it had none. -/
theorem value_opposite {numeral : Numeral} (positive : numeral.negative = false)
    (rest : List Char) :
    (({ numeral with negative := true } : Numeral).value rest).toOption.map Number.toFloat =
      (numeral.value rest).toOption.map fun number => -number.toFloat := by
  have evaluated : numeral.magnitude? = (numeral.value rest).toOption.map Number.toFloat := by
    rw [value_toFloat, double?, positive]
    exact Option.map_id'.symm
  rw [value_toFloat]
  change (numeral.magnitude?.map fun magnitude => -magnitude) = _
  rw [evaluated, Option.map_map]
  rfl

theorem exactMagnitude_of_integer {numeral : Numeral} (noDecimals : numeral.decimals = [])
    (noExponent : numeral.exponent = none) :
    numeral.exactMagnitude = spelled numeral.whole := by
  rw [exactMagnitude, writtenExponent, noDecimals, noExponent, List.append_nil]
  simp

/-- An integer of up to 53 bits is read exactly. -/
theorem number?_double?_of_integer {numeral : Numeral} (noDecimals : numeral.decimals = [])
    (noExponent : numeral.exponent = none) (small : spelled numeral.whole ≤ 2 ^ 53) :
    numeral.double?.bind Double.number? = some numeral.exact := by
  have plain : numeral.IsPlain := ⟨noDecimals, noExponent, small.trans (by decide)⟩
  rw [double?, magnitude?, if_pos plain, Option.map_some, Option.bind_some, exact,
    exactMagnitude_of_integer noDecimals noExponent]
  exact Double.number?_ofNat small numeral.negative

end Numeral

end Acceptor.Json
