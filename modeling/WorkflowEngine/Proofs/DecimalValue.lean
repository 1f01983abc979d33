/-
Module: WorkflowEngine.Proofs.DecimalValue
Layer: Proofs
Purpose: Decimal literals by their exact values.  Every literal becomes the double nearest to its value, also where the
  power of ten is not formed (`Decimal.toBinary64_eq`); so the doubles are in the order of the values
  (`Decimal.toBinary64_le`), and a literal is finite exactly if its value lies below half a spacing beyond the largest
  double (`Decimal.toBinary64_isFinite`).
Imports: Mathlib.Algebra.Order.Field.Rat, Mathlib.Algebra.Order.Field.Power, WorkflowEngine.Number.Decimal,
  WorkflowEngine.Proofs.Rounding
Trusted boundary: none
Main exports: Decimal.value, Decimal.toBinary64_eq, Decimal.toBinary64_le, Decimal.toBinary64_isFinite
-/
import Mathlib.Algebra.Order.Field.Rat
import Mathlib.Algebra.Order.Field.Power
import WorkflowEngine.Number.Decimal
import WorkflowEngine.Proofs.Rounding

namespace WorkflowEngine

namespace Decimal

variable (d : Decimal) {d' : Decimal}

/-! ## Values -/

/-- The exact value of a literal. -/
def value : ℚ := (if d.negative then -1 else 1) * d.significand * 10 ^ d.exponent

/-- The magnitude of the value as a quotient: what is divided. -/
def num : Nat := d.significand * 10 ^ d.exponent.toNat

/-- The magnitude of the value as a quotient: what it is divided by. -/
def den : Nat := 10 ^ (-d.exponent).toNat

theorem den_pos : 0 < d.den := Nat.pow_pos (by decide)

theorem value_eq : d.value = (Binary64.signed d.negative d.num : ℚ) / d.den := by
  have power : (10 : ℚ) ^ d.exponent = 10 ^ d.exponent.toNat / 10 ^ (-d.exponent).toNat := by
    cases d.exponent with
    | ofNat e => simp
    | negSucc e => simp
  rw [value, num, den, power]
  cases d.negative <;> simp [mul_div_assoc, neg_div]

variable {d}

/-- A value is no greater than another one if its quotient is no greater. -/
theorem value_le_iff : d.value ≤ d'.value ↔
    Binary64.signed d.negative d.num * (d'.den : Int) ≤ Binary64.signed d'.negative d'.num * (d.den : Int) := by
  have positive : (0 : ℚ) < d.den := by exact_mod_cast d.den_pos
  have positive' : (0 : ℚ) < d'.den := by exact_mod_cast d'.den_pos
  rw [value_eq, value_eq, div_le_div_iff₀ positive positive']
  exact_mod_cast Iff.rfl

/-! ## The nearest double -/

variable (d) in
/-- The number of digits of a significand. -/
def places : Nat := (Nat.toDigits 10 d.significand).length

theorem places_pos : 0 < d.places := Nat.length_toDigits_pos

theorem significand_lt : d.significand < 10 ^ d.places :=
  (Nat.length_toDigits_le_iff (by decide) d.places_pos).mp (Nat.le_refl _)

theorem le_significand (filled : d.significand ≠ 0) : 10 ^ (d.places - 1) ≤ d.significand := by
  rcases Nat.eq_zero_or_pos (d.places - 1) with single | more
  · rw [single]
    exact Nat.one_le_iff_ne_zero.mpr filled
  · apply Nat.not_lt.mp
    intro less
    have short := (Nat.length_toDigits_le_iff (by decide) more).mpr less
    have : d.places ≤ d.places - 1 := short
    omega

/-- A value with more than 310 places before the point is too large for a double. -/
theorem num_large (filled : d.significand ≠ 0) (large : 310 < d.exponent + d.places) :
    Binary64.tooLarge * d.den ≤ d.num * Binary64.one := by
  have powers : 10 ^ 310 * d.den ≤ 10 ^ (d.places - 1) * 10 ^ d.exponent.toNat := by
    rw [den, ← Nat.pow_add, ← Nat.pow_add]
    exact Nat.pow_le_pow_right (by decide) (by omega)
  have most : Binary64.tooLarge ≤ 10 ^ 310 * Binary64.one := by decide +kernel
  calc Binary64.tooLarge * d.den ≤ 10 ^ 310 * Binary64.one * d.den := Nat.mul_le_mul_right _ most
    _ = 10 ^ 310 * d.den * Binary64.one := Nat.mul_right_comm ..
    _ ≤ 10 ^ (d.places - 1) * 10 ^ d.exponent.toNat * Binary64.one := Nat.mul_le_mul_right _ powers
    _ ≤ d.num * Binary64.one :=
        Nat.mul_le_mul_right _ (Nat.mul_le_mul_right _ (le_significand filled))

/-- A value whose first digit stands more than 400 places after the point is less than half a grain. -/
theorem num_small (small : d.exponent + d.places < -400) : 2 * (d.num * Binary64.one) < d.den := by
  have whole : d.exponent.toNat = 0 := by omega
  obtain ⟨power, least, far⟩ : ∃ power, 2 * Binary64.one ≤ 10 ^ power ∧ power ≤ 400 :=
    ⟨400, by decide +kernel, Nat.le_refl _⟩
  have powers : 10 ^ power * 10 ^ d.places ≤ d.den := by
    rw [den, ← Nat.pow_add]
    exact Nat.pow_le_pow_right (by decide) (by omega)
  calc 2 * (d.num * Binary64.one) = 2 * Binary64.one * d.significand := by
        rw [num, whole, Nat.pow_zero, Nat.mul_one, Nat.mul_comm d.significand, Nat.mul_assoc]
    _ ≤ 10 ^ power * d.significand := Nat.mul_le_mul_right _ least
    _ < 10 ^ power * 10 ^ d.places := Nat.mul_lt_mul_of_pos_left significand_lt (Nat.pow_pos (by decide))
    _ ≤ d.den := powers

variable (d)

/-- Every literal becomes the double nearest to its value. -/
theorem toBinary64_eq : d.toBinary64 = .ofRatio d.negative d.num d.den := by
  have infinite (large : Binary64.overflow ≤ Binary64.rounded (d.num * Binary64.one) d.den) :
      Binary64.ofRatio d.negative d.num d.den = .infinite d.negative := by
    rw [Binary64.ofRatio, Binary64.ofGrainRatio_eq, if_pos large]
  have nothing (none : Binary64.rounded (d.num * Binary64.one) d.den = 0) :
      Binary64.ofRatio d.negative d.num d.den = .finite d.negative 0 := by
    rw [Binary64.ofRatio, Binary64.ofGrainRatio_eq, none, if_neg (Nat.not_le.mpr Binary64.overflow_pos)]
  unfold toBinary64
  split
  · rename_i empty
    rw [nothing]
    rw [num, empty, Nat.zero_mul, Nat.zero_mul]
    exact Binary64.rounded_zero d.den_pos
  · rename_i filled
    simp only
    split
    · exact (infinite ((Binary64.overflow_le_rounded_iff d.den_pos).mpr (num_large filled ‹_›))).symm
    · split
      · exact (nothing (Binary64.rounded_eq_zero (num_small ‹_›))).symm
      · split
        · have one : (-d.exponent).toNat = 0 := by omega
          rw [den, one]
          rfl
        · have whole : d.exponent.toNat = 0 := by omega
          rw [num, whole, Nat.pow_zero, Nat.mul_one]
          rfl

variable {d}

/-- Literals become doubles in the order of their values. -/
theorem toBinary64_le (le : d.value ≤ d'.value) : d.toBinary64.le d'.toBinary64 = true := by
  rw [toBinary64_eq, toBinary64_eq]
  apply Binary64.ofGrainRatio_le d.den_pos d'.den_pos
  rw [Binary64.signed_mul, Binary64.signed_mul, Int.mul_right_comm, Int.mul_right_comm _ (Binary64.one : Int)]
  exact Int.mul_le_mul_of_nonneg_right (value_le_iff.mp le) (Int.natCast_nonneg _)

/-- A whole number becomes the double nearest to it. -/
theorem toBinary64_whole (negative : Bool) (n : Nat) : toBinary64 ⟨negative, n, 0⟩ = .ofRatio negative n 1 := by
  rw [toBinary64_eq, num, den]
  exact congrArg (Binary64.ofRatio negative · 1) (Nat.mul_one n)

theorem value_whole (n : Nat) : value ⟨false, n, 0⟩ = n := by
  simp [value]

/-- What is too large for a double, as a number. -/
theorem tooLarge_eq : (Binary64.tooLarge : ℚ) = (2 ^ 1024 - 2 ^ 970) * Binary64.one := by
  -- Stated for any powers, as these are too large to be written out.
  have cast {high low : Nat} (sum : Binary64.tooLarge + 2 ^ low * Binary64.one = 2 ^ high * Binary64.one) :
      (Binary64.tooLarge : ℚ) = (2 ^ high - 2 ^ low) * Binary64.one := by
    have sum' : (Binary64.tooLarge : ℚ) + 2 ^ low * Binary64.one = 2 ^ high * Binary64.one := by exact_mod_cast sum
    rw [sub_mul]
    exact eq_sub_of_add_eq sum'
  exact cast (by decide +kernel)

/-- A literal is infinite exactly if its value is too large: half a spacing beyond the largest double, or more. -/
theorem toBinary64_eq_infinite : d.toBinary64 = .infinite false ↔ 2 ^ 1024 - 2 ^ 970 ≤ d.value := by
  have positive : (0 : ℚ) < d.den := by exact_mod_cast d.den_pos
  have one_pos : (0 : ℚ) < Binary64.one := by exact_mod_cast Binary64.one_pos
  have large : (2 ^ 1024 - 2 ^ 970 : ℚ) ≤ d.value ↔
      (Binary64.tooLarge * d.den : Int) ≤ Binary64.signed d.negative (d.num * Binary64.one) := by
    rw [value_eq, le_div_iff₀ positive, ← mul_le_mul_iff_of_pos_right one_pos, mul_right_comm, ← tooLarge_eq,
      Binary64.signed_mul]
    exact_mod_cast Iff.rfl
  rw [large, toBinary64_eq, Binary64.ofRatio, Binary64.ofGrainRatio_eq]
  have threshold : Binary64.overflow ≤ Binary64.rounded (d.num * Binary64.one) d.den ↔
      Binary64.tooLarge * d.den ≤ d.num * Binary64.one := Binary64.overflow_le_rounded_iff d.den_pos
  cases d.negative with
  | false =>
      rw [Binary64.signed_false, ← Int.natCast_mul, Int.ofNat_le, ← threshold]
      split
      · exact ⟨fun _ => ‹_›, fun _ => rfl⟩
      · refine iff_of_false ?_ ‹_›
        intro finite
        cases finite
  | true =>
      -- A negative number is no positive infinity, and what is too large is positive.
      have some : 0 < Binary64.tooLarge * d.den := Nat.mul_pos Binary64.tooLarge_pos d.den_pos
      rw [Binary64.signed_true, ← Int.natCast_mul]
      constructor
      · intro infinite
        split at infinite <;> cases infinite
      · intro negative
        omega

end Decimal

end WorkflowEngine
