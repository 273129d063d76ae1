import Mathlib

/-! # Rounding to doubles

Doubles as numbers, and what is known of numbers once they have been rounded. An integer of up to 53
bits is a double (`number?_ofNat`); any other number of at least 53 bits is rounded to a double that
differs from it by no more than one in the last place (`exists_roundWithAccuracy_eq`), and so are
powers of ten and products of such doubles, until they are too great (`Approximates.mul`).
-/

namespace Acceptor.Double

open Float.Model Float.Model.UnpackedFloat

/-- The number that a double stands for, if it is finite. -/
def number? (value : Float) : Option ℚ :=
  match value.toModel.unpack with
  | .zero _ => some 0
  | .finite sign significand exponent _ => some (sign.apply significand * 2 ^ exponent)
  | _ => none

/-! ## Nearly equal numbers -/

/-- One in the last place of 53 bits. -/
def slack : ℚ := 1 + 1 / 2 ^ 52

theorem one_le_slack : 1 ≤ slack := by norm_num [slack]

theorem slack_pos : 0 < slack := one_pos.trans_le one_le_slack

/-- The numbers are equal but for as many errors in the last place. -/
def Within (errors : ℕ) (first second : ℚ) : Prop :=
  first ≤ second * slack ^ errors ∧ second ≤ first * slack ^ errors

namespace Within

variable {errors others : ℕ} {first second third fourth : ℚ}

theorem refl (number : ℚ) : Within 0 number number := by simp [Within]

theorem nonneg (near : Within errors first second) (nonneg : 0 ≤ second) : 0 ≤ first :=
  nonneg_of_mul_nonneg_left (nonneg.trans near.2) (pow_pos slack_pos errors)

theorem mono (near : Within errors first second) (fewer : errors ≤ others) (nonneg : 0 ≤ second) :
    Within others first second := by
  have more : slack ^ errors ≤ slack ^ others := pow_le_pow_right₀ one_le_slack fewer
  exact ⟨near.1.trans (mul_le_mul_of_nonneg_left more nonneg),
    near.2.trans (mul_le_mul_of_nonneg_left more (near.nonneg nonneg))⟩

theorem trans (near : Within errors first second) (further : Within others second third) :
    Within (errors + others) first third := by
  constructor
  · calc first ≤ second * slack ^ errors := near.1
      _ ≤ third * slack ^ others * slack ^ errors :=
          mul_le_mul_of_nonneg_right further.1 (pow_pos slack_pos errors).le
      _ = third * slack ^ (errors + others) := by ring
  · calc third ≤ second * slack ^ others := further.2
      _ ≤ first * slack ^ errors * slack ^ others :=
          mul_le_mul_of_nonneg_right near.2 (pow_pos slack_pos others).le
      _ = first * slack ^ (errors + others) := by ring

theorem mul (left : Within errors first second) (right : Within others third fourth)
    (nonneg : 0 ≤ second) (also : 0 ≤ fourth) :
    Within (errors + others) (first * third) (second * fourth) := by
  have left_nonneg := left.nonneg nonneg
  have right_nonneg := right.nonneg also
  have scale := pow_pos slack_pos errors
  constructor
  · calc first * third ≤ second * slack ^ errors * (fourth * slack ^ others) :=
        mul_le_mul left.1 right.1 right_nonneg (mul_nonneg nonneg scale.le)
      _ = second * fourth * slack ^ (errors + others) := by ring
  · calc second * fourth ≤ first * slack ^ errors * (third * slack ^ others) :=
        mul_le_mul left.2 right.2 also (mul_nonneg left_nonneg scale.le)
      _ = first * third * slack ^ (errors + others) := by ring

end Within

/-- What is left of a number after shifting and rounding. -/
theorem within_of_shift {m r shift : ℕ} (e : ℤ) (kept : 2 ^ 52 ≤ m / 2 ^ shift)
    (rounded : r = m / 2 ^ shift ∨ r = m / 2 ^ shift + 1) :
    Within 1 (r * 2 ^ shift * 2 ^ e) (m * 2 ^ e) := by
  have unit := Nat.mul_le_mul_right (2 ^ shift) kept
  have below := Nat.div_mul_le_self m (2 ^ shift)
  have above := Nat.lt_div_mul_add (a := m) (Nat.two_pow_pos shift)
  have again : r * 2 ^ shift = m / 2 ^ shift * 2 ^ shift ∨
      r * 2 ^ shift = m / 2 ^ shift * 2 ^ shift + 2 ^ shift := by
    obtain rfl | rfl := rounded
    · exact .inl rfl
    · exact .inr (Nat.succ_mul ..)
  obtain ⟨upper, lower⟩ : r * 2 ^ shift * 2 ^ 52 ≤ m * (2 ^ 52 + 1) ∧
      m * 2 ^ 52 ≤ r * 2 ^ shift * (2 ^ 52 + 1) := by
    generalize r * 2 ^ shift = rounded at again ⊢
    generalize m / 2 ^ shift * 2 ^ shift = truncated at *
    omega
  have scale : (0 : ℚ) < 2 ^ e := zpow_pos two_pos e
  have upper : (r * 2 ^ shift : ℚ) * 2 ^ 52 ≤ m * (2 ^ 52 + 1) := by exact_mod_cast upper
  have lower : (m : ℚ) * 2 ^ 52 ≤ r * 2 ^ shift * (2 ^ 52 + 1) := by exact_mod_cast lower
  rw [Within, slack, pow_one, mul_right_comm (m : ℚ), mul_right_comm (r * 2 ^ shift : ℚ),
    mul_le_mul_iff_left₀ scale, mul_le_mul_iff_left₀ scale]
  constructor <;> linarith

/-! ## Significands -/

/-- A significand with all of its bits. -/
structure Full (significand : ℕ) : Prop where
  low : 2 ^ 52 ≤ significand
  high : significand < 2 ^ 53

/-- Rounding shifts digits out, rounds what is left and shifts again, should that be too long. -/
theorem roundWithAccuracy_of_shifts {sign : Sign} {m rounded final : ℕ} {e shifted last : ℤ}
    {accuracy : Accuracy} {extended : ExtendedMantissa} {round sticky : Bool}
    (first : shiftToTargetExponent .binary64 m e accuracy = (extended, shifted))
    (rounds : extended.roundedMantissa = rounded)
    (second : shiftToTargetExponent .binary64 rounded shifted .exact =
      (⟨final, round, sticky⟩, last))
    (positive : 0 < final) :
    roundWithAccuracy .binary64 sign m e accuracy = .finite sign final last positive := by
  subst rounds
  simp only [roundWithAccuracy, first, second]
  exact dif_neg (Nat.ne_of_gt positive)

namespace Full

variable {m : ℕ} {e : ℤ} (full : Full m)

include full

theorem log2_eq : m.log2 = 52 :=
  (Nat.log2_eq_iff (by have := full.low; omega)).mpr ⟨full.low, full.high⟩

theorem pos : 0 < m := Nat.lt_of_lt_of_le (Nat.two_pow_pos 52) full.low

/-- Nothing is shifted out of it. -/
theorem shiftToTargetExponent_eq (least : -1074 ≤ e) :
    shiftToTargetExponent .binary64 m e .exact = (⟨m, false, false⟩, e) := by
  have target : Format.binary64.targetExponent (totalExponent m e) = e := by
    rw [totalExponent, full.log2_eq]
    change max (52 + 1 + e - 53) (-1074) = e
    omega
  rw [shiftToTargetExponent]
  simp only [target, shiftToExponent, Int.sub_self, Int.toNat_zero, Int.natCast_zero, Int.add_zero]
  rfl

theorem roundWithAccuracy_eq (sign : Sign) (least : -1074 ≤ e) :
    roundWithAccuracy .binary64 sign m e .exact = .finite sign m e full.pos :=
  have unshifted := full.shiftToTargetExponent_eq least
  roundWithAccuracy_of_shifts unshifted rfl unshifted full.pos

end Full

/-- A double with a full significand keeps its parts when it is packed into bits. -/
theorem Full.unpack_pack {sign : Sign} {m : ℕ} {e : ℤ} (full : Full m) (least : -1074 ≤ e)
    (greatest : e ≤ 971) :
    (Float.Model.pack (.finite sign m e full.pos)).unpack = .finite sign m e full.pos := by
  have ⟨low, high⟩ := full
  have field : (e + (1023 : ℕ) + (52 : ℕ)).toNat = (e + 1075).toNat := by omega
  have notGreatest : BitVec.ofNat 11 (e + 1075).toNat ≠ -1#11 := by
    intro same
    have number := congrArg BitVec.toNat same
    rw [BitVec.toNat_ofNat] at number
    change _ = 2047 at number
    omega
  have notLeast : BitVec.ofNat 11 (e + 1075).toNat ≠ 0#11 := by
    intro same
    have number := congrArg BitVec.toNat same
    rw [BitVec.toNat_ofNat, BitVec.toNat_ofNat] at number
    omega
  have packed : UnpackedFloat.pack .binary64 (.finite sign m e full.pos) =
      packComponents .binary64 sign (BitVec.ofNat 11 (e + 1075).toNat) (BitVec.ofNat 52 m) := by
    rw [UnpackedFloat.pack]
    change (if 2 ^ 11 ≤ (e + (1023 : ℕ) + (52 : ℕ)).toNat + 1 then _ else
      if m.log2 + 1 = 53 then packComponents .binary64 sign
        (BitVec.ofNat 11 (e + (1023 : ℕ) + (52 : ℕ)).toNat) _ else _) = _
    rw [if_neg (by omega), if_pos (by rw [full.log2_eq]), field]
  have whole : (1#1 ++ BitVec.ofNat 52 m).toNat = m := by
    rw [BitVec.toNat_append, ← Nat.shiftLeft_add_eq_or_of_lt (BitVec.isLt _), BitVec.toNat_ofNat,
      Nat.shiftLeft_eq]
    change 1 * 2 ^ 52 + m % 2 ^ 52 = m
    omega
  have exponent : ((BitVec.ofNat 11 (e + 1075).toNat).toNat : ℤ) - ((1023 : ℕ) + (52 : ℕ)) = e := by
    rw [BitVec.toNat_ofNat]
    omega
  change UnpackedFloat.unpack .binary64 (UnpackedFloat.pack .binary64 _) = _
  rw [packed, UnpackedFloat.unpack]
  simp only [unpackMantissa_packComponents, unpackExponent_packComponents]
  rw [if_neg notGreatest, if_neg notLeast]
  congr 1
  rw [unpackSign_packComponents, Sign.ofBitVec_toBitVec]

/-- It is infinite if its exponent is too great. -/
theorem Full.unpack_pack_infinity {m : ℕ} {e : ℤ} (full : Full m) (great : 971 < e) :
    (Float.Model.pack (.finite .positive m e full.pos)).unpack = .infinity .positive := by
  have packed : UnpackedFloat.pack .binary64 (.finite .positive m e full.pos) =
      packedInfinity .binary64 .positive := by
    rw [UnpackedFloat.pack]
    change (if 2 ^ 11 ≤ (e + (1023 : ℕ) + (52 : ℕ)).toNat + 1 then _ else _) = _
    exact if_pos (by omega)
  change UnpackedFloat.unpack .binary64 (UnpackedFloat.pack .binary64 _) = _
  rw [packed]
  rfl

theorem Full.exponent_le_iff {m : ℕ} {e : ℤ} (full : Full m) :
    e ≤ 971 ↔ (m * 2 ^ e : ℚ) < 2 ^ 1024 := by
  have low : (2 : ℚ) ^ (52 : ℤ) ≤ m := by exact_mod_cast full.low
  have high : (m : ℚ) < 2 ^ (53 : ℤ) := by exact_mod_cast full.high
  have scale : (0 : ℚ) < 2 ^ e := zpow_pos two_pos e
  rw [← zpow_natCast]
  constructor
  · intro small
    calc (m * 2 ^ e : ℚ) < 2 ^ (53 : ℤ) * 2 ^ e := mul_lt_mul_of_pos_right high scale
      _ = 2 ^ (53 + e) := (zpow_add₀ two_ne_zero ..).symm
      _ ≤ 2 ^ ((1024 : ℕ) : ℤ) := zpow_le_zpow_right₀ one_le_two (by omega)
  · intro small
    by_contra great
    refine absurd small (not_lt.mpr ?_)
    calc (2 : ℚ) ^ ((1024 : ℕ) : ℤ) ≤ 2 ^ (52 + e) := zpow_le_zpow_right₀ one_le_two (by omega)
      _ = 2 ^ (52 : ℤ) * 2 ^ e := zpow_add₀ two_ne_zero ..
      _ ≤ m * 2 ^ e := mul_le_mul_of_nonneg_right low scale.le

/-! ## Rounding -/

theorem shiftRight_mantissa (extended : ExtendedMantissa) (places : ℕ) :
    (extended >>> places).mantissa = extended.mantissa / 2 ^ places := by
  induction places with
  | zero => exact (Nat.div_one _).symm
  | succ places ih =>
    change (extended >>> places).mantissa / 2 = _
    rw [ih, Nat.div_div_eq_div_mul, Nat.pow_succ]

theorem roundedMantissa_cases (extended : ExtendedMantissa) :
    extended.roundedMantissa = extended.mantissa ∨
      extended.roundedMantissa = extended.mantissa + 1 := by
  obtain ⟨mantissa, round, sticky⟩ := extended
  have even := Nat.mod_two_eq_zero_or_one mantissa
  cases round <;> cases sticky <;>
    simp [ExtendedMantissa.roundedMantissa, ExtendedMantissa.accuracy, Accuracy.roundToNearestEven]
  omega

theorem shiftToTargetExponent_of_large {m shift : ℕ} {e : ℤ} (log2 : m.log2 = 52 + shift)
    (least : -1074 ≤ e) :
    shiftToTargetExponent .binary64 m e .exact =
      (ExtendedMantissa.mk m false false >>> shift, e + shift) := by
  have target : Format.binary64.targetExponent (totalExponent m e) = e + shift := by
    rw [totalExponent, log2]
    change max (((52 + shift : ℕ) : ℤ) + 1 + e - 53) (-1074) = _
    omega
  have places : (e + shift - e).toNat = shift := by omega
  rw [shiftToTargetExponent]
  simp only [target, shiftToExponent, places]
  rfl

/-- A number of at least 53 bits is rounded to a full significand. -/
theorem exists_roundWithAccuracy_eq {m : ℕ} {e : ℤ} (sign : Sign) (large : 2 ^ 52 ≤ m)
    (least : -1074 ≤ e) : ∃ (r : ℕ) (last : ℤ) (full : Full r), e ≤ last ∧
      roundWithAccuracy .binary64 sign m e .exact = .finite sign r last full.pos ∧
      Within 1 (r * 2 ^ last) (m * 2 ^ e) := by
  obtain ⟨shift, log2⟩ := Nat.exists_eq_add_of_le ((Nat.le_log2 (by omega)).mpr large)
  have first := shiftToTargetExponent_of_large log2 least
  have ⟨low, high⟩ : Full (m / 2 ^ shift) := by
    have low := Nat.log2_self_le (n := m) (by omega)
    have high := Nat.lt_log2_self (n := m)
    rw [log2, Nat.pow_add] at low
    rw [log2, Nat.add_right_comm, Nat.pow_add] at high
    exact ⟨(Nat.le_div_iff_mul_le (Nat.two_pow_pos _)).mpr low,
      (Nat.div_lt_iff_lt_mul (Nat.two_pow_pos _)).mpr high⟩
  obtain ⟨r, rounds⟩ : ∃ r, (ExtendedMantissa.mk m false false >>> shift).roundedMantissa = r :=
    ⟨_, rfl⟩
  have rounded := roundedMantissa_cases (ExtendedMantissa.mk m false false >>> shift)
  rw [rounds, shiftRight_mantissa] at rounded
  change r = m / 2 ^ shift ∨ r = m / 2 ^ shift + 1 at rounded
  have near := within_of_shift e low rounded
  have scale (places : ℕ) : (2 : ℚ) ^ (e + places) = 2 ^ places * 2 ^ e := by
    rw [zpow_add₀ two_ne_zero, zpow_natCast, mul_comm]
  by_cases short : r < 2 ^ 53
  · have full : Full r := ⟨by omega, short⟩
    refine ⟨r, e + shift, full, by omega, roundWithAccuracy_of_shifts first rounds
      (full.shiftToTargetExponent_eq (by omega)) full.pos, ?_⟩
    rwa [scale, ← mul_assoc]
  · -- rounding up has carried through to a further bit, which is shifted out
    have power : r = 2 ^ 53 := by omega
    have full : Full (2 ^ 52) := ⟨Nat.le_refl _, by decide⟩
    have halved : ExtendedMantissa.mk (2 ^ 53) false false >>> 1 = ⟨2 ^ 52, false, false⟩ := rfl
    have second : shiftToTargetExponent .binary64 (2 ^ 53) (e + shift) .exact =
        (⟨2 ^ 52, false, false⟩, e + shift + (1 : ℕ)) := by
      rw [← halved]
      exact shiftToTargetExponent_of_large Nat.log2_two_pow (by omega)
    refine ⟨2 ^ 52, e + shift + (1 : ℕ), full, by omega,
      roundWithAccuracy_of_shifts first (rounds.trans power) second full.pos, ?_⟩
    have carried : ((2 ^ 52 : ℕ) : ℚ) * 2 ^ (e + shift + (1 : ℕ)) = r * 2 ^ shift * 2 ^ e := by
      rw [add_assoc, ← Nat.cast_add, scale, power]
      push_cast
      ring
    rwa [carried]

/-! ## Integers -/

/-- A positive double that stands for a number, but for as many errors in the last place. Its
exponent leaves room for products. -/
def Approximates (errors : ℕ) (value : Float) (number : ℚ) : Prop :=
  ∃ (m : ℕ) (e : ℤ) (full : Full m), value.toModel.unpack = .finite .positive m e full.pos ∧
    -537 ≤ e ∧ Within errors (m * 2 ^ e) number

theorem toModel_ofNat {n : ℕ} (positive : 0 < n) (fits : n < 2 ^ 64) :
    (UInt64.ofNat n).toFloat.toModel =
      Float.Model.pack (UnpackedFloat.round .binary64 .positive n 0) := by
  have word : (UInt64.ofNat n).toNat = n := UInt64.toNat_ofNat_of_lt' fits
  change Float.Model.pack (UnpackedFloat.ofInt .binary64 (UInt64.ofNat n).toNat) = _
  rw [word, UnpackedFloat.ofInt, UnpackedFloat.normalize,
    Int.compare_eq_gt.mpr (Int.natCast_pos.mpr positive), Int.toNat_natCast]

theorem round_natCast (n : ℕ) (sign : Sign) :
    UnpackedFloat.round .binary64 sign n 0 =
      roundWithAccuracy .binary64 sign (n <<< (52 - n.log2)) (-(52 - n.log2 : ℕ)) .exact := by
  have target : Format.binary64.targetExponent (totalExponent n 0) = n.log2 - 52 := by
    rw [totalExponent]
    change max ((n.log2 : ℤ) + 1 + 0 - 53) (-1074) = _
    omega
  have places : (-((n.log2 : ℤ) - 52)).toNat = 52 - n.log2 := by omega
  rw [UnpackedFloat.round]
  simp only [target, decreaseExponent, Int.zero_sub, places]

/-- An integer of few bits fills a significand once zeros have been put behind it. -/
theorem full_shiftLeft {n : ℕ} (positive : 0 < n) (small : n < 2 ^ 53) :
    Full (n <<< (52 - n.log2)) := by
  have few : n.log2 ≤ 52 := Nat.le_of_lt_succ ((Nat.log2_lt (by omega)).mpr small)
  have least := Nat.log2_self_le (Nat.ne_of_gt positive)
  have most := Nat.lt_log2_self (n := n)
  rw [Nat.shiftLeft_eq]
  constructor
  · calc 2 ^ 52 = 2 ^ n.log2 * 2 ^ (52 - n.log2) := by rw [← Nat.pow_add, Nat.add_sub_of_le few]
      _ ≤ n * 2 ^ (52 - n.log2) := Nat.mul_le_mul_right _ least
  · calc n * 2 ^ (52 - n.log2) < 2 ^ (n.log2 + 1) * 2 ^ (52 - n.log2) :=
          Nat.mul_lt_mul_of_pos_right most (Nat.two_pow_pos _)
      _ = 2 ^ 53 := by rw [← Nat.pow_add, Nat.add_right_comm, Nat.add_sub_of_le few]

theorem shiftLeft_mul_zpow (n places : ℕ) : ((n <<< places : ℕ) * 2 ^ (-places : ℤ) : ℚ) = n := by
  rw [Nat.shiftLeft_eq, Nat.cast_mul, Nat.cast_pow, zpow_neg, zpow_natCast, Nat.cast_ofNat]
  exact mul_inv_cancel_right₀ (pow_ne_zero _ two_ne_zero) _

/-- So it is not rounded. -/
theorem approximates_ofNat_of_small {n : ℕ} (positive : 0 < n) (small : n < 2 ^ 53) :
    Approximates 0 (UInt64.ofNat n).toFloat n := by
  have full := full_shiftLeft positive small
  refine ⟨_, -(52 - n.log2 : ℕ), full, ?_, by omega, ?_⟩
  · rw [toModel_ofNat positive (by omega), round_natCast, full.roundWithAccuracy_eq _ (by omega),
      full.unpack_pack (by omega) (by omega)]
  · rw [shiftLeft_mul_zpow]
    exact .refl _

/-- Any other one is rounded. -/
theorem approximates_ofNat {n : ℕ} (positive : 0 < n) (fits : n < 2 ^ 64) :
    Approximates 1 (UInt64.ofNat n).toFloat n := by
  have large : 2 ^ 52 ≤ n <<< (52 - n.log2) := by
    by_cases small : n < 2 ^ 53
    · exact (full_shiftLeft positive small).low
    · rw [Nat.shiftLeft_eq]
      exact (show 2 ^ 52 ≤ n by omega).trans (Nat.le_mul_of_pos_right n (Nat.two_pow_pos _))
  obtain ⟨r, last, full, above, rounds, near⟩ :=
    exists_roundWithAccuracy_eq .positive large (e := -(52 - n.log2 : ℕ)) (by omega)
  rw [shiftLeft_mul_zpow] at near
  have bound : (n : ℚ) * slack ^ 1 < 2 ^ 1024 := by
    have fits : (n : ℚ) < 2 ^ 64 := by exact_mod_cast fits
    calc (n : ℚ) * slack ^ 1 ≤ 2 ^ 64 * slack ^ 1 :=
          mul_le_mul_of_nonneg_right fits.le (pow_pos slack_pos 1).le
      _ ≤ 2 ^ 65 := by norm_num [slack]
      _ < 2 ^ 1024 := pow_lt_pow_right₀ one_lt_two (by decide)
  refine ⟨r, last, full, ?_, by omega, near⟩
  rw [toModel_ofNat positive fits, round_natCast, rounds]
  exact full.unpack_pack (by omega) (full.exponent_le_iff.mpr (near.1.trans_lt bound))

/-! ## Powers of ten and products -/

/-- The double has a full significand and stands for just the number. -/
def isExactly (value : Float) (number : ℕ) : Bool :=
  match value.toModel.unpack with
  | .finite .positive m e _ =>
    2 ^ 52 ≤ m && m < 2 ^ 53 && -537 ≤ e && ((m * 2 ^ e : ℚ) == number)
  | _ => false

theorem approximates_of_isExactly {value : Float} {number : ℕ}
    (same : isExactly value number = true) : Approximates 0 value number := by
  rw [isExactly] at same
  split at same
  · next m e positive unpacked =>
    simp only [Bool.and_eq_true, decide_eq_true_eq, beq_iff_eq] at same
    obtain ⟨⟨⟨low, high⟩, least⟩, equal⟩ := same
    refine ⟨m, e, ⟨low, high⟩, unpacked, least, ?_⟩
    rw [equal]
    exact .refl _
  · cases same

theorem isExactly_smallPowers : ∀ power < 23,
    isExactly (Float.ofScientific 1 false power) (10 ^ power) = true := by decide +kernel

theorem toModel_ofScientific {power : ℕ} (great : 23 ≤ power) (small : power ≤ 308) :
    (Float.ofScientific 1 false power).toModel = Float.Model.pack
      (roundWithAccuracy .binary64 .positive (2 ^ 53 * 10 ^ power) (-53) .exact) := by
  rw [Float.ofScientific, dif_neg (by omega)]
  change Float.Model.pack (UnpackedFloat.ofScientific .binary64 1 power) = _
  have noOverflow : ¬ (power : ℤ) > 2 ^ 11 := by omega
  have noUnderflow : ¬ (power : ℤ) < -(2 ^ 11 + (Nat.log2 1 : ℕ)) := by omega
  rw [UnpackedFloat.ofScientific, dif_neg one_ne_zero, if_neg noOverflow, if_neg noUnderflow,
    if_pos (Int.natCast_nonneg power)]
  rfl

theorem greatestPower_lt : 10 ^ 308 * slack ^ 1 < 2 ^ 1024 := by decide +kernel

/-- Powers of ten are rounded, too. -/
theorem approximates_powerOfTen {power : ℕ} (small : power ≤ 308) :
    Approximates 1 (Float.ofScientific 1 false power) (10 ^ power) := by
  by_cases table : power < 23
  · obtain ⟨m, e, full, unpacked, least, near⟩ :=
      approximates_of_isExactly (isExactly_smallPowers power table)
    rw [Nat.cast_pow, Nat.cast_ofNat] at near
    exact ⟨m, e, full, unpacked, least, near.mono Nat.one_pos.le (by positivity)⟩
  have large : 2 ^ 52 ≤ 2 ^ 53 * 10 ^ power :=
    (show 2 ^ 52 ≤ 2 ^ 53 by decide).trans (Nat.le_mul_of_pos_right _ (by positivity))
  obtain ⟨r, last, full, above, rounds, near⟩ :=
    exists_roundWithAccuracy_eq .positive large (e := -53) (by omega)
  have value : (((2 ^ 53 * 10 ^ power : ℕ) : ℚ) * 2 ^ (-53 : ℤ)) = 10 ^ power := by
    push_cast
    rw [zpow_neg, mul_right_comm]
    norm_num
  rw [value] at near
  have bound : (10 : ℚ) ^ power * slack ^ 1 < 2 ^ 1024 := by
    calc (10 : ℚ) ^ power * slack ^ 1 ≤ 10 ^ 308 * slack ^ 1 :=
          mul_le_mul_of_nonneg_right (pow_le_pow_right₀ (by norm_num) small)
            (pow_pos slack_pos 1).le
      _ < 2 ^ 1024 := greatestPower_lt
  refine ⟨r, last, full, ?_, by omega, near⟩
  rw [toModel_ofScientific (by omega) small, rounds]
  exact full.unpack_pack (by omega) (full.exponent_le_iff.mpr (near.1.trans_lt bound))

theorem exists_unpack_of_beq_zero {value : Float} (isZero : (value == 0) = true) :
    ∃ sign, value.toModel.unpack = .zero sign := by
  have zero : (0 : Float).toModel.unpack = .zero .positive := rfl
  change (value.toModel.unpack.compare (0 : Float).toModel.unpack == some .eq) = true at isZero
  rw [zero] at isZero
  cases unpacked : value.toModel.unpack with
  | zero sign => exact ⟨sign, rfl⟩
  | notANumber =>
    rw [unpacked] at isZero
    cases isZero
  | infinity sign =>
    rw [unpacked] at isZero
    cases sign <;> cases isZero
  | finite sign m e positive =>
    rw [unpacked] at isZero
    cases sign <;> cases isZero

/-- A double is packed again as it was. -/
theorem pack_unpack_eq (value : Float.Model) : Float.Model.pack value.unpack = value := by
  obtain ⟨bits, valid⟩ := value
  have same := pack_unpack_of_valid valid
  simp only [Float.Model.pack, Float.Model.unpack, same]

namespace Approximates

variable {errors others : ℕ} {first second : Float} {number factor : ℚ}

/-- A product is rounded once more; it is infinite exactly if it is too great after that. -/
theorem mul (left : Approximates errors first number) (right : Approximates others second factor)
    (nonneg : 0 ≤ number) (also : 0 ≤ factor) :
    ∃ product, Within (errors + others + 1) product (number * factor) ∧
      ((first * second).isInf = true ↔ 2 ^ 1024 ≤ product) := by
  obtain ⟨m, e, full, unpacked, least, near⟩ := left
  obtain ⟨n, f, filled, alsoUnpacked, alsoLeast, close⟩ := right
  have large : 2 ^ 52 ≤ m * n :=
    full.low.trans (Nat.le_mul_of_pos_right m filled.pos)
  obtain ⟨r, last, rest, above, rounds, rounded⟩ :=
    exists_roundWithAccuracy_eq .positive large (e := e + f) (by omega)
  have factors : ((m * n : ℕ) * 2 ^ (e + f) : ℚ) = m * 2 ^ e * (n * 2 ^ f) := by
    rw [Nat.cast_mul, zpow_add₀ two_ne_zero]
    ring
  rw [factors] at rounded
  refine ⟨r * 2 ^ last, ?_, ?_⟩
  · have both := rounded.trans (near.mul close nonneg also)
    rwa [Nat.add_comm 1] at both
  · have product : (first * second).isInf =
        (Float.Model.pack (.finite .positive r last rest.pos)).unpack.isInf := by
      change (Float.Model.pack (UnpackedFloat.mul .binary64 first.toModel.unpack
        second.toModel.unpack)).unpack.isInf = _
      rw [unpacked, alsoUnpacked, ← rounds]
      rfl
    rw [product, ← not_lt, ← rest.exponent_le_iff, not_le]
    by_cases great : 971 < last
    · rw [rest.unpack_pack_infinity great]
      exact iff_of_true rfl great
    · rw [rest.unpack_pack (by omega) (by omega)]
      exact iff_of_false Bool.false_ne_true great

/-- Zero times a double is not infinite. -/
theorem isInf_zero_mul (nearly : Approximates errors second factor) :
    ((UInt64.ofNat 0).toFloat * second).isInf = false := by
  obtain ⟨n, f, filled, unpacked, -, -⟩ := nearly
  have zero : (UInt64.ofNat 0).toFloat.toModel.unpack = .zero .positive := rfl
  have product : UnpackedFloat.mul .binary64 (.zero .positive) (.finite .positive n f filled.pos) =
      .zero .positive := rfl
  change (Float.Model.pack (UnpackedFloat.mul .binary64 (UInt64.ofNat 0).toFloat.toModel.unpack
    second.toModel.unpack)).unpack.isInf = _
  rw [zero, unpacked, product]
  rfl

/-- Nothing comes of dividing zero. -/
theorem zero_div (nearly : Approximates errors second factor) {zero : Float}
    (isZero : (zero == 0) = true) : zero / second = zero := by
  obtain ⟨n, f, filled, unpacked, -, -⟩ := nearly
  obtain ⟨sign, isZero⟩ := exists_unpack_of_beq_zero isZero
  refine congrArg Float.ofModel (?_ : _ = zero.toModel)
  change Float.Model.pack (UnpackedFloat.div .binary64 zero.toModel.unpack
    second.toModel.unpack) = _
  have again := pack_unpack_eq zero.toModel
  rw [isZero] at again
  rw [isZero, unpacked, ← again]
  cases sign <;> rfl

end Approximates

/-- What is approximated without an error is met, with either sign. -/
theorem Approximates.number?_eq {value : Float} {number : ℚ} (met : Approximates 0 value number)
    (small : number < 2 ^ 1024) (negative : Bool) :
    number? (if negative then -value else value) = some (if negative then -number else number) := by
  obtain ⟨m, e, full, unpacked, least, above, below⟩ := met
  rw [pow_zero, mul_one] at above below
  obtain rfl := le_antisymm above below
  cases negative with
  | false =>
    rw [number?, if_neg Bool.false_ne_true, unpacked]
    rfl
  | true =>
    have negated : (-value).toModel = Float.Model.pack value.toModel.unpack.neg := rfl
    have opposite : (UnpackedFloat.finite .positive m e full.pos).neg =
        .finite .negative m e full.pos := rfl
    rw [number?, if_pos rfl, negated, unpacked, opposite,
      full.unpack_pack (by omega) (full.exponent_le_iff.mpr small)]
    simp only [Sign.apply, Int.cast_neg, Int.cast_natCast, neg_mul, if_true]

/-- Integers of up to 53 bits are doubles. -/
theorem number?_ofNat {n : ℕ} (small : n ≤ 2 ^ 53) (negative : Bool) :
    number? (if negative then -(UInt64.ofNat n).toFloat else (UInt64.ofNat n).toFloat) =
      some (if negative then -(n : ℚ) else n) := by
  rcases Nat.eq_zero_or_pos n with rfl | positive
  · cases negative <;> rfl
  rcases Nat.eq_or_lt_of_le small with rfl | small
  · cases negative <;> decide +kernel
  refine (approximates_ofNat_of_small positive small).number?_eq ?_ negative
  calc (n : ℚ) < 2 ^ 53 := by exact_mod_cast small
    _ < 2 ^ 1024 := pow_lt_pow_right₀ one_lt_two (by decide)

end Acceptor.Double
