import Acceptor.Proofs.Json.Evaluation
import Acceptor.Proofs.Json.Grammar

/-! # Which numerals are refused

A numeral is refused exactly if its number is too great, but for four errors in the last place
(`SpellsNumeral.exists_near_refused_iff`): one for the digits that are not kept, one for the
significand as a double, one for the power of ten and one for their product.
-/

namespace Acceptor.Json

open Double

/-! ## Digits that are not kept -/

theorem spelled_append (digits further : List Char) :
    spelled (digits ++ further) = spelled digits * 10 ^ further.length + spelled further := by
  rw [spelled, Nat.ofDigitChars_append, Nat.ofDigitChars_eq_ofDigitChars_zero, Nat.mul_comm]
  rfl

theorem lt_ten_of_isDigit {digit : Char} (isDigit : digit.isDigit = true) :
    digit.toNat - 48 < 10 := by
  rw [Char.isDigit, Bool.and_eq_true, decide_eq_true_eq, decide_eq_true_eq] at isDigit
  have most : digit.toNat ≤ 57 := isDigit.2
  omega

theorem spelled_lt {digits : List Char} (all : ∀ digit ∈ digits, digit.isDigit = true) :
    spelled digits < 10 ^ digits.length := by
  induction digits using List.reverseRecOn with
  | nil => exact Nat.one_pos
  | append_singleton earlier digit ih =>
    rw [List.forall_mem_append] at all
    have least := ih all.1
    have last := lt_ten_of_isDigit (all.2 digit (List.mem_singleton_self digit))
    rw [spelled_concat, List.length_append, List.length_singleton, Nat.pow_succ]
    omega

/-- The number that digits spell behind a decimal point, times a power of ten. -/
def behindPoint (digits : List Char) (power : ℤ) : ℚ :=
  spelled digits * 10 ^ (power - digits.length)

/-- Digits behind others count for less than one of the last place before them. -/
theorem behindPoint_bounds {before digits : List Char} (begins : before <+: digits)
    (all : ∀ digit ∈ digits, digit.isDigit = true) (power : ℤ) :
    behindPoint before power ≤ behindPoint digits power ∧
      behindPoint digits power ≤ (spelled before + 1) * 10 ^ (power - before.length) := by
  obtain ⟨further, rfl⟩ := begins
  have scale : (10 : ℚ) ^ (power - before.length) =
      10 ^ further.length * 10 ^ (power - (before ++ further).length) := by
    rw [← zpow_natCast, ← zpow_add₀ (by norm_num), List.length_append, Nat.cast_add]
    congr 1
    ring
  have unit : (0 : ℚ) < 10 ^ (power - (before ++ further).length) := zpow_pos (by norm_num) _
  have least : spelled before * 10 ^ further.length ≤ spelled (before ++ further) := by
    rw [spelled_append]
    exact Nat.le_add_right ..
  have most : spelled (before ++ further) ≤ (spelled before + 1) * 10 ^ further.length := by
    rw [spelled_append, Nat.add_mul, Nat.one_mul]
    exact Nat.add_le_add_left (spelled_lt (List.forall_mem_append.mp all).2).le _
  rw [behindPoint, behindPoint, scale, ← mul_assoc, ← mul_assoc]
  exact ⟨mul_le_mul_of_nonneg_right (by exact_mod_cast least) unit.le,
    mul_le_mul_of_nonneg_right (by exact_mod_cast most) unit.le⟩

/-- Numbers that begin with the same digits are nearly equal if those are many. -/
theorem within_of_prefix {before first second : List Char} (great : 2 ^ 60 ≤ spelled before)
    (begins : before <+: first) (all : ∀ digit ∈ first, digit.isDigit = true)
    (also : before <+: second) (every : ∀ digit ∈ second, digit.isDigit = true) (power : ℤ) :
    Within 1 (behindPoint first power) (behindPoint second power) := by
  obtain ⟨least, most⟩ := behindPoint_bounds begins all power
  obtain ⟨low, high⟩ := behindPoint_bounds also every power
  have unit : (0 : ℚ) < 10 ^ (power - before.length) := zpow_pos (by norm_num) _
  have great : (2 : ℚ) ^ 60 ≤ spelled before := by exact_mod_cast great
  have gap : (spelled before + 1 : ℚ) * 10 ^ (power - before.length) ≤
      behindPoint before power * slack ^ 1 := by
    rw [behindPoint, mul_right_comm, slack, pow_one]
    exact mul_le_mul_of_nonneg_right (by linarith) unit.le
  have scale := (pow_pos slack_pos 1).le
  exact ⟨most.trans (gap.trans (mul_le_mul_of_nonneg_right low scale)),
    high.trans (gap.trans (mul_le_mul_of_nonneg_right least scale))⟩

namespace Numeral

theorem abs_exact (numeral : Numeral) : |numeral.exact| = numeral.exactMagnitude := by
  have nonneg : 0 ≤ numeral.exactMagnitude := by
    rw [exactMagnitude]
    positivity
  rw [exact]
  split
  · rw [abs_neg, abs_of_nonneg nonneg]
  · exact abs_of_nonneg nonneg

/-- If not all digits fit, those that do spell a great number. -/
theorem great_of_fitting_lt {before digits : List Char}
    (all : ∀ digit ∈ digits, digit.isDigit = true)
    (few : fitting (2 ^ 64 - 1) before digits < digits.length) :
    2 ^ 60 ≤ spelled (before ++ digits.take (fitting (2 ^ 64 - 1) before digits)) := by
  have exceeds := exceeds_of_fitting_lt (Nat.lt_succ_self _) (Nat.succ_le_of_lt few)
  have next := lt_ten_of_isDigit (all _ (List.getElem_mem few))
  rw [Nat.succ_eq_add_one, List.take_succ_eq_append_getElem few, ← List.append_assoc,
    spelled_concat] at exceeds
  omega

theorem exactMagnitude_eq (numeral : Numeral) :
    numeral.exactMagnitude = behindPoint (numeral.whole ++ numeral.decimals)
      (numeral.writtenExponent + numeral.whole.length) := by
  rw [exactMagnitude, behindPoint, List.length_append]
  congr 2
  omega

theorem significand_mul_power (numeral : Numeral) :
    (numeral.significand * 10 ^ numeral.power : ℚ) =
      behindPoint (numeral.wholeKept ++ numeral.decimalsKept)
        (numeral.writtenExponent + numeral.whole.length) := by
  have few : numeral.wholeKept.length ≤ numeral.whole.length := List.length_take_le' ..
  rw [significand, power, behindPoint, List.length_append]
  congr 2
  omega

/-- The significand and its power of ten differ from what is written by no more than one in the last
place. -/
theorem within_significand {numeral : Numeral}
    (all : ∀ digit ∈ numeral.whole ++ numeral.decimals, digit.isDigit = true) :
    Within 1 (numeral.significand * 10 ^ numeral.power) numeral.exactMagnitude := by
  obtain ⟨whole, decimals⟩ := List.forall_mem_append.mp all
  have wholePrefix : numeral.wholeKept <+: numeral.whole := List.take_prefix ..
  have decimalsPrefix : numeral.decimalsKept <+: numeral.decimals := List.take_prefix ..
  have kept : ∀ digit ∈ numeral.wholeKept ++ numeral.decimalsKept, digit.isDigit = true :=
    List.forall_mem_append.mpr ⟨fun digit listed => whole digit (wholePrefix.subset listed),
      fun digit listed => decimals digit (decimalsPrefix.subset listed)⟩
  rw [significand_mul_power, exactMagnitude_eq]
  rcases (fitting_le (2 ^ 64 - 1) [] numeral.whole).lt_or_eq with few | most
  · -- decimals may be kept behind whole digits that are not
    exact within_of_prefix (great_of_fitting_lt whole few) (List.prefix_append ..) kept
      (wholePrefix.trans (List.prefix_append ..)) all _
  have wholeEqual : numeral.wholeKept = numeral.whole := by rw [wholeKept, most, List.take_length]
  rcases (fitting_le (2 ^ 64 - 1) numeral.wholeKept numeral.decimals).lt_or_eq with few | most
  · have great : 2 ^ 60 ≤ spelled (numeral.wholeKept ++ numeral.decimalsKept) :=
      great_of_fitting_lt decimals few
    refine within_of_prefix great List.prefix_rfl kept ?_ all _
    rwa [wholeEqual, List.prefix_append_right_inj]
  · have decimalsEqual : numeral.decimalsKept = numeral.decimals := by
      rw [decimalsKept, most, List.take_length]
    rw [wholeEqual, decimalsEqual]
    exact (Within.refl _).mono Nat.one_pos.le (by rw [behindPoint]; positivity)

/-! ## Products that are too great -/

theorem product?_ne_none_of_neg {significand : ℕ} {power : ℤ} (divides : power < 0) :
    product? significand power ≠ none := by
  rw [product?, if_pos divides]
  exact Option.some_ne_none _

theorem product?_eq_none_iff_of_le {significand exponent : ℕ} (small : exponent ≤ 308) :
    product? significand exponent = none ↔
      ((UInt64.ofNat significand).toFloat * Float.ofScientific 1 false exponent).isInf = true := by
  have positive : ¬ (exponent : ℤ) < 0 := by omega
  rw [product?, if_neg positive, if_pos (by omega), Int.natAbs_natCast]
  dsimp only
  split
  · next infinite => exact iff_of_true rfl infinite
  · next finite => exact iff_of_false (Option.some_ne_none _) finite

theorem product?_eq_none_iff_of_gt {significand : ℕ} {power : ℤ} (great : 308 < power) :
    product? significand power = none ↔ significand ≠ 0 := by
  rw [product?, if_neg (by omega), if_neg (by omega)]
  simp

theorem product?_zero (power : ℤ) : product? 0 power ≠ none := by
  rcases lt_or_ge power 0 with divides | positive
  · exact product?_ne_none_of_neg divides
  obtain ⟨exponent, rfl⟩ := Int.eq_ofNat_of_zero_le positive
  rcases Nat.lt_or_ge 308 exponent with great | small
  · rw [Ne, product?_eq_none_iff_of_gt (by omega)]
    exact not_not.mpr rfl
  · rw [Ne, product?_eq_none_iff_of_le small, (approximates_powerOfTen small).isInf_zero_mul]
    exact Bool.false_ne_true

theorem pow_sixtyFour_lt : (2 : ℚ) ^ 64 < 2 ^ 1024 := pow_lt_pow_right₀ one_lt_two (by decide)

theorem pow_le_powerOfTen : (2 : ℚ) ^ 1024 ≤ 10 ^ (309 : ℤ) := by decide +kernel

/-- A product is refused if it is too great after rounding both factors and itself. -/
theorem exists_near_product?_eq_none_iff {significand : ℕ} (fits : significand < 2 ^ 64)
    (power : ℤ) : ∃ near, Within 3 near (significand * 10 ^ power) ∧
      (product? significand power = none ↔ 2 ^ 1024 ≤ near) := by
  have fitting : (significand : ℚ) < 2 ^ 64 := by exact_mod_cast fits
  have exactly : Within 3 (significand * 10 ^ power) (significand * 10 ^ power) :=
    (Within.refl _).mono (Nat.zero_le 3) (by positivity)
  rcases Nat.eq_zero_or_pos significand with rfl | positive
  · refine ⟨_, exactly, iff_of_false (product?_zero power) (not_le_of_gt ?_)⟩
    rw [Nat.cast_zero, zero_mul]
    positivity
  rcases lt_or_ge power 0 with divides | multiplies
  · refine ⟨_, exactly, iff_of_false (product?_ne_none_of_neg divides) (not_le_of_gt ?_)⟩
    calc (significand * 10 ^ power : ℚ) ≤ significand * 1 :=
          mul_le_mul_of_nonneg_left (zpow_le_one_of_nonpos₀ (by norm_num) divides.le)
            (Nat.cast_nonneg _)
      _ < 2 ^ 64 := by rwa [mul_one]
      _ < 2 ^ 1024 := pow_sixtyFour_lt
  obtain ⟨exponent, rfl⟩ := Int.eq_ofNat_of_zero_le multiplies
  rcases Nat.lt_or_ge 308 exponent with great | small
  · refine ⟨_, exactly, iff_of_true ((product?_eq_none_iff_of_gt (by omega)).mpr positive.ne') ?_⟩
    calc (2 : ℚ) ^ 1024 ≤ 10 ^ (309 : ℤ) := pow_le_powerOfTen
      _ ≤ 10 ^ (exponent : ℤ) := zpow_le_zpow_right₀ (by norm_num) (by omega)
      _ ≤ significand * 10 ^ (exponent : ℤ) :=
          le_mul_of_one_le_left (by positivity) (by exact_mod_cast positive)
  · have factor := approximates_powerOfTen small
    obtain ⟨product, near, overflows⟩ :=
      (approximates_ofNat positive fits).mul factor (by positivity) (by positivity)
    refine ⟨product, by rwa [zpow_natCast], ?_⟩
    rw [product?_eq_none_iff_of_le small, overflows]

theorem significand_lt (numeral : Numeral) : numeral.significand < 2 ^ 64 := by
  have none : spelled [] ≤ 2 ^ 64 - 1 := Nat.zero_le _
  have whole : spelled numeral.wholeKept ≤ 2 ^ 64 - 1 := spelled_take_fitting_le none numeral.whole
  have all := spelled_take_fitting_le whole numeral.decimals
  exact Nat.lt_of_le_sub_one (Nat.two_pow_pos 64) all

/-- Digits change the power of ten by no more than one each. -/
theorem power_bounds (numeral : Numeral) :
    numeral.writtenExponent - numeral.decimals.length ≤ numeral.power ∧
      numeral.power ≤ numeral.writtenExponent + numeral.whole.length := by
  have few : numeral.decimalsKept.length ≤ numeral.decimals.length := List.length_take_le' ..
  rw [power]
  omega

/-! ## Which numerals are refused -/

/-- Exponents that decide alone decide as the product would, unless there are too many digits. -/
theorem magnitude?_eq_none_iff {numeral : Numeral} (noInteger : ¬ numeral.IsPlain)
    (short : numeral.whole.length + numeral.decimals.length ≤ 2 ^ 30) :
    numeral.magnitude? = none ↔ product? numeral.significand numeral.power = none := by
  obtain ⟨least, most⟩ := numeral.power_bounds
  rw [magnitude?, if_neg noInteger]
  split
  · next above =>
    rw [product?_eq_none_iff_of_gt (by omega)]
    simp
  · split
    · next below =>
      exact iff_of_false (Option.some_ne_none _) (product?_ne_none_of_neg (by omega))
    · rfl

theorem exists_near_magnitude?_eq_none_iff {numeral : Numeral}
    (all : ∀ digit ∈ numeral.whole ++ numeral.decimals, digit.isDigit = true)
    (short : numeral.whole.length + numeral.decimals.length ≤ 2 ^ 30) :
    ∃ near, Within 4 near numeral.exactMagnitude ∧
      (numeral.magnitude? = none ↔ 2 ^ 1024 ≤ near) := by
  by_cases plain : numeral.IsPlain
  · have fits := Nat.lt_of_le_sub_one (Nat.two_pow_pos 64) plain.2.2
    have fits : (spelled numeral.whole : ℚ) < 2 ^ 64 := by exact_mod_cast fits
    refine ⟨spelled numeral.whole, ?_, iff_of_false ?_ (not_le_of_gt (fits.trans ?_))⟩
    · rw [exactMagnitude_of_integer plain.1 plain.2.1]
      exact (Within.refl _).mono (Nat.zero_le 4) (Nat.cast_nonneg _)
    · rw [magnitude?, if_pos plain]
      exact Option.some_ne_none _
    · exact pow_sixtyFour_lt
  · obtain ⟨near, product, refused⟩ :=
      exists_near_product?_eq_none_iff numeral.significand_lt numeral.power
    have within : Within (3 + 1) near numeral.exactMagnitude :=
      product.trans (within_significand all)
    exact ⟨near, within, (magnitude?_eq_none_iff plain short).trans refused⟩

end Numeral

theorem WholeDigits.all {digits : List Char} (whole : WholeDigits digits) :
    ∀ digit ∈ digits, digit.isDigit = true := by
  obtain rfl | ⟨isDigits, -⟩ := whole
  · exact List.forall_mem_singleton.mpr rfl
  · exact isDigits.2

theorem SpellsDecimals.all {text digits : List Char} (spelling : SpellsDecimals text digits) :
    ∀ digit ∈ digits, digit.isDigit = true := by
  cases spelling with
  | absent => exact List.forall_mem_nil _
  | present isDigits => exact isDigits.2

theorem SpellsDecimals.length_le {text digits : List Char} (spelling : SpellsDecimals text digits) :
    digits.length ≤ text.length := by
  cases spelling with
  | absent => exact Nat.le_refl _
  | present => exact Nat.le_succ _

namespace SpellsNumeral

variable {text : List Char} {numeral : Numeral} (spelling : SpellsNumeral text numeral)

include spelling

theorem all : ∀ digit ∈ numeral.whole ++ numeral.decimals, digit.isDigit = true := by
  cases spelling with
  | parts whole decimals => exact List.forall_mem_append.mpr ⟨whole.all, decimals.all⟩

theorem length_le : numeral.whole.length + numeral.decimals.length ≤ text.length := by
  cases spelling with
  | parts _ decimals =>
    have fewer := decimals.length_le
    simp only [List.length_append]
    omega

/-- A numeral is refused exactly if its number is too great, but for four errors. In longer texts
leading zeros could outweigh an exponent that decides alone. -/
theorem exists_near_refused_iff (short : text.length ≤ 2 ^ 30) :
    ∃ near, Within 4 near |numeral.exact| ∧ (numeral.double? = none ↔ 2 ^ 1024 ≤ near) := by
  rw [numeral.abs_exact, Numeral.double?, Option.map_eq_none_iff]
  exact Numeral.exists_near_magnitude?_eq_none_iff spelling.all (spelling.length_le.trans short)

/-- Numbers that remain in range with four errors are read. -/
theorem exists_double? (short : text.length ≤ 2 ^ 30)
    (small : |numeral.exact| * slack ^ 4 < 2 ^ 1024) : ∃ value, numeral.double? = some value := by
  obtain ⟨near, within, refused⟩ := spelling.exists_near_refused_iff short
  rw [← Option.ne_none_iff_exists', Ne, refused, not_le]
  exact within.1.trans_lt small

/-- Numbers that four errors do not bring back into range are refused. -/
theorem double?_eq_none (short : text.length ≤ 2 ^ 30)
    (great : 2 ^ 1024 * slack ^ 4 ≤ |numeral.exact|) : numeral.double? = none := by
  obtain ⟨near, within, refused⟩ := spelling.exists_near_refused_iff short
  exact refused.mpr (le_of_mul_le_mul_right (great.trans within.2) (pow_pos slack_pos 4))

end SpellsNumeral

end Acceptor.Json
