/-
Module: WorkflowEngine.Proofs.Rounding
Layer: Proofs
Purpose: What correct rounding promises.  A quotient is rounded to a nearest number, to the even one of two
  (`Binary64.roundHalfEven_nearest`), so a larger quotient is never rounded to less (`Binary64.rounded_mono`), and what
  has up to 53 binary digits is kept (`Binary64.rounded_eq_self`).  Doubles are in the order of the quotients that they
  are rounded from (`Binary64.ofGrainRatio_le`), and infinite from half a spacing beyond the largest one on
  (`Binary64.overflow_le_rounded_iff`).
Imports: Mathlib.Algebra.Order.Ring.Nat, Mathlib.Data.Nat.Log, WorkflowEngine.Number.Binary64
Trusted boundary: none
Main exports: Binary64.Nearest, Binary64.roundHalfEven_nearest, Binary64.roundHalfEven_mono, Binary64.rounded,
  Binary64.ofNat_exact, Binary64.rounded_mono, Binary64.overflow_le_rounded_iff, Binary64.ofGrainRatio_le
-/
import Mathlib.Algebra.Order.Ring.Nat
import Mathlib.Data.Nat.Log
import WorkflowEngine.Number.Binary64

namespace WorkflowEngine

namespace Binary64

/-! ## Nearest numbers -/

/-- A number is nearest to a quotient: no more than one half from it, and even if another one is as near. -/
structure Nearest (num den k : Nat) : Prop where
  low : 2 * (k * den) ≤ 2 * num + den
  high : 2 * num ≤ 2 * (k * den) + den
  even : 2 * (k * den) = 2 * num + den ∨ 2 * num = 2 * (k * den) + den → k % 2 = 0

namespace Nearest

variable {num den k num' l : Nat}

/-- A number nearest to a larger quotient is no smaller. -/
theorem mono (h : Nearest num den k) (h' : Nearest num' den l) (positive : 0 < den) (le : num ≤ num') : k ≤ l := by
  by_contra more
  have next : l * den + den ≤ k * den := by
    rw [← Nat.succ_mul]
    exact Nat.mul_le_mul_right den (by omega)
  have low := h.low
  have high := h'.high
  -- Both quotients are the one half-way between the two numbers, which are neighbours and cannot both be even.
  have even := h.even (.inl (by omega))
  have even' := h'.even (.inr (by omega))
  have neighbours : k * den = (l + 1) * den := by
    rw [Nat.succ_mul]
    omega
  have := Nat.eq_of_mul_eq_mul_right positive neighbours
  omega

theorem unique (h : Nearest num den k) (h' : Nearest num den l) (positive : 0 < den) : k = l :=
  Nat.le_antisymm (h.mono h' positive (Nat.le_refl num)) (h'.mono h positive (Nat.le_refl num))

/-- The quotient stays the same if both its numbers are multiplied by a third. -/
theorem scale (h : Nearest num den k) {c : Nat} (positive : 0 < c) : Nearest (num * c) (den * c) k := by
  have low := Nat.mul_le_mul_right c h.low
  have high := Nat.mul_le_mul_right c h.high
  rw [Nat.add_mul, Nat.mul_assoc, Nat.mul_assoc, Nat.mul_assoc] at low high
  refine ⟨low, high, ?_⟩
  rintro (tie | tie)
  · apply h.even ∘ .inl
    apply Nat.eq_of_mul_eq_mul_right positive
    rw [Nat.add_mul, Nat.mul_assoc, Nat.mul_assoc, Nat.mul_assoc, tie]
  · apply h.even ∘ .inr
    apply Nat.eq_of_mul_eq_mul_right positive
    rw [Nat.add_mul, Nat.mul_assoc, Nat.mul_assoc, Nat.mul_assoc, tie]

end Nearest

section Quotients

variable {num den num' den' k : Nat}

theorem roundHalfEven_nearest (num : Nat) {den : Nat} (positive : 0 < den) :
    Nearest num den (roundHalfEven num den) := by
  have whole := Nat.div_add_mod num den
  rw [Nat.mul_comm] at whole
  have rest := Nat.mod_lt num positive
  have next : (num / den + 1) * den = num / den * den + den := Nat.succ_mul ..
  simp only [roundHalfEven]
  split
  · constructor <;> omega
  · split
    · constructor <;> omega
    · split
      · constructor <;> omega
      · constructor <;> omega

theorem roundHalfEven_mul_mul (num : Nat) {den c : Nat} (positive : 0 < den) (scaled : 0 < c) :
    roundHalfEven (num * c) (den * c) = roundHalfEven num den :=
  (roundHalfEven_nearest _ (Nat.mul_pos positive scaled)).unique ((roundHalfEven_nearest num positive).scale scaled)
    (Nat.mul_pos positive scaled)

/-- A larger quotient is not rounded to less. -/
theorem roundHalfEven_mono (positive : 0 < den) (positive' : 0 < den') (le : num * den' ≤ num' * den) :
    roundHalfEven num den ≤ roundHalfEven num' den' := by
  rw [← roundHalfEven_mul_mul num positive positive', ← roundHalfEven_mul_mul num' positive' positive,
    Nat.mul_comm den' den]
  exact (roundHalfEven_nearest _ (Nat.mul_pos positive positive')).mono
    (roundHalfEven_nearest _ (Nat.mul_pos positive positive')) (Nat.mul_pos positive positive') le

theorem roundHalfEven_mul (positive : 0 < den) (k : Nat) : roundHalfEven (k * den) den = k := by
  simp only [roundHalfEven, Nat.mul_mod_left, Nat.mul_zero, positive, if_true, Nat.mul_div_cancel k positive]

/-- A quotient is not rounded beyond a whole number that bounds it. -/
theorem roundHalfEven_le (positive : 0 < den) (bounded : num ≤ k * den) : roundHalfEven num den ≤ k := by
  have mono := roundHalfEven_mono positive positive (Nat.mul_le_mul_right den bounded)
  rwa [roundHalfEven_mul positive] at mono

theorem le_roundHalfEven (positive : 0 < den) (bounded : k * den ≤ num) : k ≤ roundHalfEven num den := by
  have mono := roundHalfEven_mono positive positive (Nat.mul_le_mul_right den bounded)
  rwa [roundHalfEven_mul positive] at mono

end Quotients

/-! ## Spacing -/

/-- One grain and infinity as powers of two.  The exponents are kept from view, as the powers are too large to be
written out. -/
theorem powers : ∃ zeros top, one = 2 ^ zeros ∧ overflow = 2 ^ top ∧ 53 + zeros ≤ top :=
  ⟨1074, 2098, by decide +kernel, by decide +kernel, by decide⟩

theorem one_pos : 0 < one := by
  obtain ⟨zeros, top, one_eq, -⟩ := powers
  rw [one_eq]
  exact Nat.two_pow_pos zeros

theorem overflow_pos : 0 < overflow := by
  obtain ⟨zeros, top, -, overflow_eq, -⟩ := powers
  rw [overflow_eq]
  exact Nat.two_pow_pos top

theorem spacing_pos (grains : Nat) : 0 < spacing grains := Nat.two_pow_pos _

theorem log2_mono {m n : Nat} (le : m ≤ n) : m.log2 ≤ n.log2 := by
  rw [Nat.log2_eq_log_two, Nat.log2_eq_log_two]
  exact Nat.log_mono_right le

/-- Where 53 binary digits stand before a number of zeros, the spacing is no wider than the zeros allow. -/
theorem spacing_dvd_zeros {grains zeros : Nat} (digits : grains < 2 ^ (53 + zeros)) : spacing grains ∣ 2 ^ zeros := by
  apply Nat.pow_dvd_pow
  rcases Nat.eq_zero_or_pos grains with rfl | positive
  · exact Nat.zero_le _
  · have log := (Nat.log2_lt (Nat.ne_of_gt positive)).mpr digits
    omega

/-- What has 53 binary digits before a number of zeros is a multiple of the spacing around it. -/
theorem spacing_dvd {grains zeros : Nat} (multiple : 2 ^ zeros ∣ grains) (digits : grains < 2 ^ (53 + zeros)) :
    spacing grains ∣ grains :=
  Nat.dvd_trans (spacing_dvd_zeros digits) multiple

theorem spacing_dvd_self {n : Nat} (small : n < 2 ^ 53) : spacing n ∣ n := @spacing_dvd n 0 (Nat.one_dvd n) small

/-- The spacing around a power of two, and around anything smaller, divides it. -/
theorem spacing_dvd_two_pow {grains power : Nat} (small : grains.log2 ≤ power) : spacing grains ∣ 2 ^ power :=
  Nat.pow_dvd_pow 2 (by omega)

/-! ## Rounded quotients -/

section Rounded

variable {num den num' den' k : Nat}

/-- The quotient in grains, rounded to 53 binary digits. -/
def rounded (num den : Nat) : Nat :=
  roundHalfEven num (den * spacing (num / den)) * spacing (num / den)

theorem ofGrainRatio_eq (negative : Bool) (num den : Nat) : ofGrainRatio negative num den =
    if overflow ≤ rounded num den then .infinite negative else .finite negative (rounded num den) :=
  rfl

/-- A quotient is not rounded beyond a multiple of its spacing that bounds it. -/
theorem rounded_le (positive : 0 < den) (multiple : spacing (num / den) ∣ k) (bounded : num ≤ k * den) :
    rounded num den ≤ k := by
  obtain ⟨m, rfl⟩ := multiple
  rw [rounded, Nat.mul_comm _ m]
  apply Nat.mul_le_mul_right
  apply roundHalfEven_le (Nat.mul_pos positive (spacing_pos _))
  rwa [Nat.mul_comm _ m, Nat.mul_assoc, Nat.mul_comm _ den] at bounded

theorem le_rounded (positive : 0 < den) (multiple : spacing (num / den) ∣ k) (bounded : k * den ≤ num) :
    k ≤ rounded num den := by
  obtain ⟨m, rfl⟩ := multiple
  rw [rounded, Nat.mul_comm _ m]
  apply Nat.mul_le_mul_right
  apply le_roundHalfEven (Nat.mul_pos positive (spacing_pos _))
  rwa [Nat.mul_comm _ m, Nat.mul_assoc, Nat.mul_comm _ den] at bounded

theorem rounded_zero (positive : 0 < den) : rounded 0 den = 0 :=
  Nat.le_zero.mp (rounded_le positive (Nat.dvd_zero _) (Nat.zero_le _))

/-- Less than half a grain is nothing. -/
theorem rounded_eq_zero (small : 2 * num < den) : rounded num den = 0 := by
  have quotient : num / den = 0 := Nat.div_eq_of_lt (by omega)
  have rest : num % den = num := Nat.mod_eq_of_lt (by omega)
  have step : spacing 0 = 1 := rfl
  rw [rounded, quotient, step, Nat.mul_one, Nat.mul_one, roundHalfEven, quotient, rest]
  exact if_pos small

/-- A number with up to 53 binary digits is kept. -/
theorem rounded_eq_self {grains : Nat} (multiple : spacing grains ∣ grains) : rounded grains 1 = grains := by
  have around : spacing (grains / 1) ∣ grains := by rwa [Nat.div_one]
  apply Nat.le_antisymm
  · exact rounded_le Nat.one_pos around (by omega)
  · exact le_rounded Nat.one_pos around (by omega)

/-- A magnitude that is a multiple of the spacing around it is held exactly. -/
theorem ofGrainRatio_exact {grains : Nat} (negative : Bool) (multiple : spacing grains ∣ grains)
    (small : grains < overflow) : ofGrainRatio negative grains 1 = .finite negative grains := by
  rw [ofGrainRatio_eq, rounded_eq_self multiple, if_neg (Nat.not_le.mpr small)]

/-- A whole number of up to 53 binary digits is held exactly. -/
theorem ofGrainRatio_whole {n : Nat} (small : n < 2 ^ 53) :
    ofGrainRatio false (n * one) 1 = .finite false (n * one) := by
  obtain ⟨zeros, top, one_eq, overflow_eq, fits⟩ := powers
  have digits : n * 2 ^ zeros < 2 ^ (53 + zeros) := by
    rw [Nat.pow_add]
    exact Nat.mul_lt_mul_of_pos_right small (Nat.two_pow_pos zeros)
  rw [one_eq]
  apply ofGrainRatio_exact
  · exact spacing_dvd (Nat.dvd_mul_left ..) digits
  · rw [overflow_eq]
    exact Nat.lt_of_lt_of_le digits (Nat.pow_le_pow_right (by decide) fits)

theorem ofNat_exact {n : Nat} (small : n < 2 ^ 53) : ofNat n = .finite false (n * one) := by
  rw [ofNat, ofRatio, ofGrainRatio_whole small]

/-- A whole number is rounded alike, whatever it is a number of: zeros after it make no difference. -/
theorem rounded_mul_two_pow (n zeros : Nat) : rounded (n * 2 ^ zeros) 1 = rounded n 1 * 2 ^ zeros := by
  rcases Nat.lt_or_ge n (2 ^ 53) with small | large
  · have digits : n * 2 ^ zeros < 2 ^ (53 + zeros) := by
      rw [Nat.pow_add]
      exact Nat.mul_lt_mul_of_pos_right small (Nat.two_pow_pos zeros)
    rw [rounded_eq_self (spacing_dvd_self small), rounded_eq_self (spacing_dvd (Nat.dvd_mul_left ..) digits)]
  · have filled : n ≠ 0 := by omega
    have enough : 53 ≤ n.log2 := (Nat.le_log2 filled).mpr large
    have log : (n * 2 ^ zeros).log2 = n.log2 + zeros := by
      rw [Nat.log2_eq_iff (Nat.mul_ne_zero filled (Nat.two_pow_pos zeros).ne'), Nat.add_right_comm, Nat.pow_add,
        Nat.pow_add _ (n.log2 + 1)]
      exact ⟨Nat.mul_le_mul_right _ (Nat.log2_self_le filled),
        Nat.mul_lt_mul_of_pos_right Nat.lt_log2_self (Nat.two_pow_pos zeros)⟩
    have step : spacing (n * 2 ^ zeros) = spacing n * 2 ^ zeros := by
      change 2 ^ ((n * 2 ^ zeros).log2 - 52) = 2 ^ (n.log2 - 52) * 2 ^ zeros
      rw [log, ← Nat.pow_add]
      congr 1
      omega
    rw [rounded, rounded, Nat.div_one, Nat.div_one, Nat.one_mul, Nat.one_mul, step,
      roundHalfEven_mul_mul n (spacing_pos n) (Nat.two_pow_pos zeros), Nat.mul_assoc]

/-- A larger quotient is not rounded to less. -/
theorem rounded_mono (positive : 0 < den) (positive' : 0 < den') (le : num * den' ≤ num' * den) :
    rounded num den ≤ rounded num' den' := by
  have quotients : num / den ≤ num' / den' := by
    rw [Nat.le_div_iff_mul_le positive']
    apply Nat.le_of_mul_le_mul_right _ positive
    calc num / den * den' * den = num / den * den * den' := Nat.mul_right_comm ..
      _ ≤ num * den' := Nat.mul_le_mul_right den' (Nat.div_mul_le_self num den)
      _ ≤ num' * den := le
  have logs : (num / den).log2 ≤ (num' / den').log2 := log2_mono quotients
  rcases Nat.eq_or_lt_of_le (Nat.sub_le_sub_right logs 52) with same | wider
  · have step : spacing (num / den) = spacing (num' / den') := congrArg (2 ^ ·) same
    rw [rounded, rounded, ← step]
    apply Nat.mul_le_mul_right
    have step_pos := spacing_pos (num / den)
    apply roundHalfEven_mono (Nat.mul_pos positive step_pos) (Nat.mul_pos positive' step_pos)
    rw [← Nat.mul_assoc, ← Nat.mul_assoc]
    exact Nat.mul_le_mul_right _ le
  · -- Where the spacing differs, a power of two lies between the quotients, and neither is rounded beyond it.
    have less : (num / den).log2 < (num' / den').log2 := by omega
    have filled : num' / den' ≠ 0 := by
      intro zero
      rw [zero] at less
      exact Nat.not_lt_zero _ less
    have below : num ≤ 2 ^ (num' / den').log2 * den := by
      have short : num / den < 2 ^ (num' / den').log2 :=
        Nat.lt_of_lt_of_le Nat.lt_log2_self (Nat.pow_le_pow_right (by decide) less)
      exact Nat.le_of_lt ((Nat.div_lt_iff_lt_mul positive).mp short)
    have above : 2 ^ (num' / den').log2 * den' ≤ num' := (Nat.le_div_iff_mul_le positive').mp (Nat.log2_self_le filled)
    calc rounded num den ≤ 2 ^ (num' / den').log2 := rounded_le positive (spacing_dvd_two_pow logs) below
      _ ≤ rounded num' den' := le_rounded positive' (spacing_dvd_two_pow (Nat.le_refl _)) above

/-- What is too large for a double: all from half a spacing beyond the largest one on. -/
def tooLarge : Nat := overflow - Nat.pow 2 2044

/-- Below infinity, doubles are no more than twice as far apart as the first number that is too large lies from it. -/
theorem tooLarge_spacing : ∃ zeros, overflow = 2 ^ (53 + zeros) ∧ 2 * tooLarge + 2 ^ zeros = 2 * overflow :=
  ⟨2045, by decide +kernel, by decide +kernel⟩

theorem tooLarge_pos : 0 < tooLarge := by decide +kernel

/-- A quotient is infinite exactly if it is too large. -/
theorem overflow_le_rounded_iff (positive : 0 < den) : overflow ≤ rounded num den ↔ tooLarge * den ≤ num := by
  constructor
  · intro infinite
    by_contra small
    obtain ⟨zeros, overflow_eq, half⟩ := tooLarge_spacing
    have quotient : num / den < 2 ^ (53 + zeros) := by
      rw [Nat.div_lt_iff_lt_mul positive, ← overflow_eq]
      exact Nat.lt_of_lt_of_le (Nat.not_le.mp small) (Nat.mul_le_mul_right den (Nat.sub_le ..))
    have step := Nat.le_of_dvd (Nat.two_pow_pos zeros) (spacing_dvd_zeros quotient)
    have near := (roundHalfEven_nearest num (Nat.mul_pos positive (spacing_pos (num / den)))).low
    have reach : 2 * (overflow * den) ≤ 2 * num + den * 2 ^ zeros :=
      calc 2 * (overflow * den) ≤ 2 * (rounded num den * den) :=
            Nat.mul_le_mul_left 2 (Nat.mul_le_mul_right den infinite)
        _ ≤ 2 * num + den * spacing (num / den) := by rwa [rounded, Nat.mul_assoc, Nat.mul_comm _ den]
        _ ≤ 2 * num + den * 2 ^ zeros := Nat.add_le_add_left (Nat.mul_le_mul_left den step) _
    have whole : 2 * (tooLarge * den) + den * 2 ^ zeros = 2 * (overflow * den) := by
      rw [← Nat.mul_assoc, ← Nat.mul_assoc, ← half, Nat.add_mul, Nat.mul_comm (2 ^ zeros)]
    omega
  · intro large
    have least : overflow ≤ rounded tooLarge 1 := by decide +kernel
    exact Nat.le_trans least (rounded_mono Nat.one_pos positive (large.trans_eq (Nat.mul_one num).symm))

end Rounded

/-! ## The order of quotients -/

section Order

variable {negative negative' : Bool} {num den num' den' : Nat}

/-- A number with a sign. -/
def signed (negative : Bool) (n : Nat) : Int := if negative then -(n : Int) else n

@[simp] theorem signed_false (n : Nat) : signed false n = n := rfl

@[simp] theorem signed_true (n : Nat) : signed true n = -(n : Int) := rfl

theorem signed_mul (negative : Bool) (m n : Nat) : signed negative (m * n) = signed negative m * n := by
  cases negative with
  | false => exact Int.natCast_mul m n
  | true => rw [signed_true, signed_true, Int.natCast_mul, Int.neg_mul]

theorem place_ofGrainRatio (negative : Bool) (num den : Nat) :
    (ofGrainRatio negative num den).place = some (signed negative (min (rounded num den) overflow)) := by
  rw [ofGrainRatio_eq]
  split
  · rw [Nat.min_eq_right ‹_›]
    rfl
  · rw [Nat.min_eq_left (by omega)]
    rfl

theorem le_iff {x y : Binary64} : x.le y = true ↔ ∃ m n, x.place = some m ∧ y.place = some n ∧ m ≤ n := by
  unfold le related
  cases x.place <;> cases y.place <;> simp

theorem eq_iff {x y : Binary64} : x.eq y = true ↔ ∃ m, x.place = some m ∧ y.place = some m := by
  unfold Binary64.eq related
  cases x.place <;> cases y.place <;> simp [eq_comm]

/-- Doubles are in the order of the quotients that they are rounded from. -/
theorem ofGrainRatio_le (positive : 0 < den) (positive' : 0 < den')
    (le : signed negative num * den' ≤ signed negative' num' * den) :
    (ofGrainRatio negative num den).le (ofGrainRatio negative' num' den') = true := by
  refine le_iff.mpr ⟨_, _, place_ofGrainRatio .., place_ofGrainRatio .., ?_⟩
  -- The four cases of the signs differ only in which of the magnitudes is the larger.
  cases negative with
  | false =>
      cases negative' with
      | false =>
          simp only [signed_false] at le
          have larger : num * den' ≤ num' * den := by exact_mod_cast le
          have kept := rounded_mono positive positive' larger
          simp only [signed_false]
          omega
      | true =>
          simp only [signed_false, signed_true, Int.neg_mul, ← Int.natCast_mul] at le
          have none : num * den' = 0 := by omega
          have none' : num' * den = 0 := by omega
          obtain rfl : num = 0 := (Nat.mul_eq_zero.mp none).resolve_right positive'.ne'
          obtain rfl : num' = 0 := (Nat.mul_eq_zero.mp none').resolve_right positive.ne'
          rw [rounded_zero positive, rounded_zero positive', Nat.zero_min]
          exact Int.le_refl 0
  | true =>
      cases negative' with
      | false =>
          simp only [signed_false, signed_true]
          omega
      | true =>
          simp only [signed_true, Int.neg_mul, ← Int.natCast_mul] at le
          have larger : num' * den ≤ num * den' := by omega
          have kept := rounded_mono positive' positive larger
          simp only [signed_true]
          omega

end Order

end Binary64

end WorkflowEngine
