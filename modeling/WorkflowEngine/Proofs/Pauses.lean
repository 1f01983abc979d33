/-
Module: WorkflowEngine.Proofs.Pauses
Layer: Proofs
Purpose: How long a node can pause, whatever its settings say.  A clamped setting lies between zero and its limit
  (`Binary64.clamp_upTo`), and so a delay and a wait are no longer than theirs (`Executor.delay_le`, `waitMs_le`).
Imports: WorkflowEngine.Execution.Executor, WorkflowEngine.Proofs.Rounding, WorkflowEngine.World
Trusted boundary: none
Main exports: Binary64.UpTo, Binary64.clamp_upTo, Executor.secondsOfMs_whole, Executor.delay_le, waitMs_le
-/
import WorkflowEngine.Execution.Executor
import WorkflowEngine.Proofs.Rounding
import WorkflowEngine.World

namespace WorkflowEngine

namespace Binary64

/-! ## Clamped numbers -/

/-- A number between zero and so many grains; the only one with a negative sign is zero. -/
inductive UpTo (high : Nat) : Binary64 → Prop where
  | positive {grains : Nat} (bounded : grains ≤ high) : UpTo high (.finite false grains)
  | negativeZero : UpTo high (.finite true 0)

theorem clamp_upTo {x : Binary64} (finite : x.isFinite = true) (high : Nat) :
    (x.clamp zero (.finite false high)).UpTo high := by
  cases x with
  | nan | infinite => cases finite
  | finite negative grains =>
      cases negative with
      | false =>
          have kept : lt (.finite false grains) zero = false := by
            simp [lt, related, zero]
          simp only [clamp, kept, Bool.false_eq_true, if_false]
          split
          · exact .positive (Nat.le_refl high)
          · rename_i within
            refine .positive ?_
            simpa [lt, related] using within
      | true =>
          rcases Nat.eq_zero_or_pos grains with rfl | below
          · have kept : lt (.finite true 0) zero = false := rfl
            have within : lt (.finite false high) (.finite true 0) = false := by
              simp [lt, related, place]
            simp only [clamp, kept, within, Bool.false_eq_true, if_false]
            exact .negativeZero
          · have raised : lt (.finite true grains) zero = true := by
              simpa [lt, related, place, zero] using below
            have within : lt (.finite false high) zero = false := by
              simp [lt, related, zero]
            simp only [clamp, raised, within, Bool.false_eq_true, if_true, if_false]
            exact .positive (Nat.zero_le high)

namespace UpTo

variable {x : Binary64} {k : Nat}

theorem nearestParts_le (h : x.UpTo (k * one)) (parts : Nat) : x.nearestParts parts ≤ k * parts := by
  cases h with
  | positive bounded =>
      rw [nearestParts]
      apply roundHalfEven_le one_pos
      rw [Nat.mul_right_comm]
      exact Nat.mul_le_mul_right parts bounded
  | negativeZero =>
      rw [nearestParts]
      apply roundHalfEven_le one_pos
      rw [Nat.zero_mul]
      exact Nat.zero_le _

theorem wholePart_le (h : x.UpTo (k * one)) (limit : Nat) : x.wholePart limit ≤ k := by
  cases h with
  | positive bounded =>
      apply Nat.le_trans (Nat.min_le_left ..)
      exact Nat.div_le_of_le_mul (by rwa [Nat.mul_comm] at bounded)
  | negativeZero => exact Nat.zero_le _

end UpTo

end Binary64

/-! ## Settings -/

/-- A number that a setting may leave out is finite. -/
theorem Config.number?_getD_isFinite (config : Config) (key : String) :
    ((config.number? key).getD .zero).isFinite = true := by
  cases found : config.number? key with
  | none => rfl
  | some x => exact (Option.filter_eq_some_iff.mp found).2

/-- A wait is no longer than its limit, whatever the settings say. -/
theorem waitMs_le (config : Config) {limitMs : Nat} (small : limitMs < 2 ^ 53) : waitMs config limitMs ≤ limitMs := by
  rw [waitMs, Binary64.ofNat_exact small]
  exact (Binary64.clamp_upTo (config.number?_getD_isFinite "delay") _).wholePart_le _

namespace Executor

/-- Whole seconds are held exactly. -/
theorem secondsOfMs_whole {seconds : Nat} (small : seconds < 2 ^ 53) :
    secondsOfMs (1000 * seconds) = .finite false (seconds * Binary64.one) := by
  have whole : 1000 * seconds / 1000 = seconds := Nat.mul_div_cancel_left seconds (by decide)
  have fraction : (Binary64.ofNat 0).div (.ofNat 1000000000) = .finite false 0 := by decide +kernel
  rw [secondsOfMs, whole, Nat.mul_mod_right, Nat.zero_mul, fraction, Binary64.ofNat_exact small,
    Binary64.addMagnitudes, Nat.add_zero, Binary64.ofGrainRatio_whole small]

/-- A delay is no longer than its limit, whatever the settings say. -/
theorem delay_le (x : Executor) (config : Config) {seconds : Nat} (limit : x.maxDelayMs = 1000 * seconds)
    (small : seconds < 2 ^ 53) :
    World.wholeMs ((x.delaySeconds config).nearestParts 1000000000) ≤ x.maxDelayMs := by
  have bounded : (x.delaySeconds config).UpTo (seconds * Binary64.one) := by
    rw [delaySeconds, limit, secondsOfMs_whole small]
    exact Binary64.clamp_upTo (config.number?_getD_isFinite "delay") _
  have nanoseconds := bounded.nearestParts_le 1000000000
  rw [limit, World.wholeMs]
  omega

end Executor

end WorkflowEngine
