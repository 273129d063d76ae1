import Acceptor.Decimal.Layout
import Acceptor.Proofs.Json.Grammar
import Mathlib.Data.List.Basic
import Mathlib.Data.List.Induction
import Mathlib.Tactic.SplitIfs

/-! # Numbers are written as numerals

The text of a double, where it has one, is a numeral of JSON in either notation
(`exists_numeral_of_floatText?`): the shortest decimal is not zero, so its first digit is none
either. A double that is not finite has no text (`floatText?_eq_none`). Every run of digits without
a zero to spare is how some number is written (`exists_toDigits_eq`).
-/

namespace Acceptor.Decimal

open Json

/-! ## Digits -/

theorem digits_toDigits (number : Nat) : Digits (Nat.toDigits 10 number) :=
  ⟨Nat.toDigits_ne_nil, fun _ member => Nat.isDigit_of_mem_toDigits (by decide) (by decide) member⟩

/-- A number other than zero does not begin with a zero. -/
theorem head?_toDigits_ne {number : Nat} (positive : 0 < number) :
    (Nat.toDigits 10 number).head? ≠ some '0' := by
  induction number using Nat.strongRecOn with
  | ind number ih =>
    rw [Nat.toDigits_eq_if (by decide)]
    split
    · next small =>
      have all : ∀ digit : Fin 10, 0 < digit.val → Nat.digitChar digit.val ≠ '0' := by decide
      simpa using all ⟨number, small⟩ positive
    · next large =>
      rw [List.head?_append_of_ne_nil _ Nat.toDigits_ne_nil]
      exact ih (number / 10) (by omega) (by omega)

/-- Numbers are written without zeros to spare. -/
theorem wholeDigits_toDigits (number : Nat) : WholeDigits (Nat.toDigits 10 number) := by
  rcases Nat.eq_zero_or_pos number with rfl | positive
  · exact .inl (Nat.toDigits_zero 10)
  · exact .inr ⟨digits_toDigits number, head?_toDigits_ne positive⟩

/-- A digit stands for a number below ten. -/
theorem exists_toDigits_eq_singleton {digit : Char} (isDigit : digit.isDigit = true) :
    ∃ value < 10, Nat.toDigits 10 value = [digit] := by
  obtain ⟨least, greatest⟩ := Char.isDigit_iff_toNat.mp isDigit
  have low : 48 ≤ digit.toNat := least
  have high : digit.toNat ≤ 57 := greatest
  have code : (Nat.digitChar (digit.toNat - 48)).toNat = digit.toNat := by
    rw [Nat.toNat_digitChar_of_lt_ten (by omega)]
    omega
  refine ⟨digit.toNat - 48, by omega, ?_⟩
  rw [Nat.toDigits_of_lt_base (by omega), Char.toNat_inj.mp code]

/-- Digits without a zero to spare are how some number is written. -/
theorem exists_toDigits_eq {digits : List Char} (whole : WholeDigits digits) :
    ∃ number, Nat.toDigits 10 number = digits := by
  induction digits using List.reverseRecOn with
  | nil =>
    rcases whole with zero | ⟨⟨nonempty, -⟩, -⟩
    · cases zero
    · exact absurd rfl nonempty
  | append_singleton front digit ih =>
    rcases whole with zero | ⟨⟨-, all⟩, noZero⟩
    · exact ⟨0, by rw [zero, Nat.toDigits_zero]⟩
    · obtain ⟨value, small, last⟩ := exists_toDigits_eq_singleton (all digit (by simp))
      cases front with
      | nil => exact ⟨value, last⟩
      | cons first others =>
        -- What stands in front of the last digit begins as the whole does, so it is not zero.
        have allFront : Digits (first :: others) :=
          ⟨List.cons_ne_nil _ _, fun other member => all other (List.mem_append_left _ member)⟩
        obtain ⟨number, written⟩ := ih (.inr ⟨allFront, noZero⟩)
        have positive : 0 < number := by
          apply Nat.pos_of_ne_zero
          rintro rfl
          rw [Nat.toDigits_zero] at written
          cases written
          exact noZero rfl
        refine ⟨10 * number + value, ?_⟩
        rw [← Nat.toDigits_append_toDigits (by decide) positive small, written, last]

end Acceptor.Decimal

namespace Acceptor.Binary

theorem Scaled.holds_of_nearest? {scaled : Scaled} {multiple : Nat}
    (nearest : scaled.nearest? = some multiple) : scaled.holds multiple = true := by
  rw [nearest?] at nearest
  dsimp only at nearest
  split at nearest
  · next lower upper =>
    cases nearest
    split_ifs <;> assumption
  · next lower _ =>
    cases nearest
    exact lower
  · next _ upper =>
    cases nearest
    exact upper
  · cases nearest

theorem significand_pos {bits : UInt64} {binary : Binary} (made : ofBits? bits = some binary) :
    0 < binary.significand := by
  simp only [ofBits?] at made
  split_ifs at made with special subnormal zero
  · cases made
    exact Nat.pos_of_ne_zero zero
  · cases made
    exact Nat.add_pos_right _ (by decide)

/-- Zero does not read back as a double that is not zero. -/
theorem holds_zero {binary : Binary} (positive : 0 < binary.significand) (place : Int) :
    (binary.scale place).holds 0 = false := by
  have below : binary.below ≤ 2 := by
    rw [Binary.below]
    split <;> decide
  have unit : 0 < Nat.pow 2 (binary.exponent - 2).toNat * Nat.pow 10 (-place).toNat :=
    Nat.mul_pos (Nat.pow_pos (by decide)) (Nat.pow_pos (by decide))
  have low : 0 < (binary.scale place).low := Nat.mul_pos (by omega) unit
  simp only [Scaled.holds, Nat.zero_mul]
  split_ifs
  · rw [decide_eq_false (Nat.not_le.mpr low), Bool.false_and]
  · rw [decide_eq_false (Nat.not_lt_zero _), Bool.false_and]

theorem coefficient_pos {binary : Binary} (positive : 0 < binary.significand) {decimal : Decimal}
    (shortest : binary.shortest? = some decimal) : 0 < decimal.coefficient := by
  obtain ⟨offset, _, found⟩ := List.exists_of_findSome?_eq_some shortest
  obtain ⟨coefficient, nearest, rfl⟩ := Option.map_eq_some_iff.mp found
  apply Nat.pos_of_ne_zero
  rintro rfl
  have holds := Scaled.holds_of_nearest? nearest
  rw [holds_zero positive] at holds
  cases holds

end Acceptor.Binary

namespace Acceptor.Decimal

open Json

/-! ## Notations -/

theorem isDigit_of_mem_zeros {count : Nat} {digit : Char}
    (member : digit ∈ List.replicate count '0') : digit.isDigit = true := by
  rw [List.eq_of_mem_replicate member]
  rfl

/-- Behind a point stand the digits that are left, or a zero if none are. -/
theorem digits_getD {digits : List Char} (all : ∀ digit ∈ digits, digit.isDigit = true) :
    Digits (if digits.isEmpty then ['0'] else digits) := by
  split
  · exact ⟨List.cons_ne_nil _ _, by simp⟩
  · next some => exact ⟨by simpa using some, all⟩

/-- With either sign the text is a numeral. -/
def WritesNumeral (text : List Char) : Prop :=
  ∀ negative : Bool, ∃ numeral,
    SpellsNumeral ((if negative then ['-'] else []) ++ text) numeral

theorem writesNumeral_of_parts {whole decimals digits exponent : List Char}
    {power : Option Exponent} (isWhole : WholeDigits whole)
    (areDecimals : SpellsDecimals decimals digits) (isExponent : SpellsExponent exponent power) :
    WritesNumeral (whole ++ decimals ++ exponent) := by
  intro negative
  refine ⟨⟨negative, whole, digits, power⟩, ?_⟩
  rw [← List.append_assoc, ← List.append_assoc]
  exact @SpellsNumeral.parts ⟨negative, whole, digits, power⟩ _ _ isWhole areDecimals isExponent

section Notation

variable {digits : List Char} (all : Digits digits) (noZero : digits.head? ≠ some '0')

include all noZero

/-- The digits down to a place, with zeros where there are none. -/
theorem wholeDigits_take (more zeros : Nat) :
    WholeDigits (digits.take (more + 1) ++ List.replicate zeros '0') := by
  obtain ⟨nonempty, all⟩ := all
  cases digits with
  | nil => exact absurd rfl nonempty
  | cons digit digits =>
    refine .inr ⟨⟨by simp, fun other member => ?_⟩, by simpa using noZero⟩
    rcases List.mem_append.mp member with taken | zero
    · exact all other (List.mem_of_mem_take taken)
    · exact isDigit_of_mem_zeros zero

theorem writesNumeral_positional (place : Int) : WritesNumeral (positional digits place) := by
  by_cases small : place < 0
  · have decimals : Digits (List.replicate (-place - 1).toNat '0' ++ digits) := by
      refine ⟨by simp [all.1], fun digit member => ?_⟩
      rcases List.mem_append.mp member with zero | given
      · exact isDigit_of_mem_zeros zero
      · exact all.2 digit given
    have writes := writesNumeral_of_parts (.inl rfl) (.present decimals) .absent
    simpa [positional, if_pos small] using writes
  · have whole := wholeDigits_take all noZero place.toNat (place.toNat + 1 - digits.length)
    have decimals := digits_getD fun digit member =>
      all.2 digit (List.mem_of_mem_drop (i := place.toNat + 1) member)
    have writes := writesNumeral_of_parts whole (.present decimals) .absent
    rw [positional, if_neg small]
    simpa using writes

theorem writesNumeral_scientific (place : Int) : WritesNumeral (scientific digits place) := by
  have whole := wholeDigits_take all noZero 0 0
  rw [List.replicate_zero, List.append_nil] at whole
  have sign : SpellsSign [if place < 0 then '-' else '+'] (place < 0) := by
    by_cases small : place < 0
    · simpa [small] using SpellsSign.minus
    · simpa [small] using SpellsSign.plus
  have exponent := SpellsExponent.present (.inl rfl) sign (digits_toDigits place.natAbs)
  by_cases none : (digits.drop 1).isEmpty = true
  · have writes := writesNumeral_of_parts whole .absent exponent
    simp only [scientific]
    rw [if_pos none]
    simpa using writes
  · have decimals : Digits (digits.drop 1) :=
      ⟨by simpa using none, fun digit member => all.2 digit (List.mem_of_mem_drop member)⟩
    have writes := writesNumeral_of_parts whole (.present decimals) exponent
    simp only [scientific]
    rw [if_neg none]
    simpa using writes

end Notation

theorem writesNumeral_text {decimal : Decimal} (positive : 0 < decimal.coefficient) :
    WritesNumeral decimal.text := by
  have all := digits_toDigits decimal.coefficient
  have noZero := head?_toDigits_ne positive
  rw [text]
  split
  · exact writesNumeral_positional all noZero _
  · exact writesNumeral_scientific all noZero _

theorem writesNumeral_zero : WritesNumeral ['0', '.', '0'] := by
  have decimals : Digits ['0'] := ⟨List.cons_ne_nil _ _, by simp⟩
  exact writesNumeral_of_parts (.inl rfl) (.present decimals) .absent

/-! ## Doubles -/

open Float.Model

theorem exists_numeral_of_floatText? {value : Float} {text : List Char}
    (written : floatText? value = some text) : ∃ numeral, SpellsNumeral text numeral := by
  have sign : (if value.toBits >>> 63 = 0 then [] else ['-']) =
      if !decide (value.toBits >>> 63 = 0) then ['-'] else [] := by
    split <;> simp [*]
  simp only [floatText?, sign] at written
  split at written
  · cases written
    exact writesNumeral_zero _
  · obtain ⟨decimal, shortest, rfl⟩ := Option.map_eq_some_iff.mp written
    obtain ⟨binary, made, shortest⟩ := Option.bind_eq_some_iff.mp shortest
    have positive := Binary.coefficient_pos (Binary.significand_pos made) shortest
    exact writesNumeral_text positive _

/-- Bits whose exponent is not the greatest are those of a finite double. -/
theorem isFinite_unpack {bits : BitVec 64}
    (other : @UnpackedFloat.unpackExponent .binary64 bits ≠ -1#11) :
    (UnpackedFloat.unpack .binary64 bits).isFinite = true := by
  delta UnpackedFloat.unpack
  dsimp only
  rw [if_neg other]
  by_cases zero : @UnpackedFloat.unpackExponent .binary64 bits = 0#11
  · rw [if_pos zero]
    by_cases nothing : @UnpackedFloat.unpackMantissa .binary64 bits = 0#52
    · rw [dif_pos nothing]
      rfl
    · rw [dif_neg nothing]
      rfl
  · rw [if_neg zero]
    rfl

/-- The exponent of a double that is not finite has all of its bits set. -/
theorem exponent_of_not_finite {value : Float} (infinite : value.isFinite = false) :
    (value.toBits >>> 52).toNat % 2048 = 2047 := by
  have exponent : @UnpackedFloat.unpackExponent .binary64 value.toBits.toBitVec = -1#11 := by
    by_contra other
    have finite : value.isFinite = true := isFinite_unpack other
    rw [infinite] at finite
    cases finite
  have field : (value.toBits.toBitVec.extractLsb 62 52).toNat = 2047 :=
    congrArg BitVec.toNat exponent
  rw [BitVec.extractLsb_toNat] at field
  rw [UInt64.toNat_shiftRight]
  exact field

/-- A double that is not finite has no text. -/
theorem floatText?_eq_none {value : Float} (infinite : value.isFinite = false) :
    floatText? value = none := by
  have exponent := exponent_of_not_finite infinite
  have notZero : ¬ value.toBits <<< 1 = 0 := by
    intro zero
    have doubled : value.toBits.toNat * 2 % 18446744073709551616 = 0 := by
      have bits := congrArg UInt64.toNat zero
      rw [UInt64.toNat_shiftLeft, Nat.shiftLeft_eq] at bits
      exact bits
    have field : value.toBits.toNat / 4503599627370496 % 2048 = 2047 := by
      rw [UInt64.toNat_shiftRight, Nat.shiftRight_eq_div_pow] at exponent
      exact exponent
    omega
  have special : Binary.ofBits? value.toBits = none := by
    rw [Binary.ofBits?]
    exact if_pos exponent
  rw [floatText?]
  simp only [notZero, special, if_false]
  rfl

end Acceptor.Decimal
