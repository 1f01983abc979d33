/-
Module: WorkflowEngine.Proofs.LongerPauses
Layer: Proofs
Purpose: How pauses compare that are set by decimal literals.  Up to the largest double a larger value never pauses
  less, what reaches the limit pauses for the limit, and what is not positive does not pause at all; a literal beyond
  the largest double is infinite, counts as no number, and does not pause either (`longer_delays_pause_longer`).  So the
  longest pauses that can be asked for are none (`huge_delay_pauses_less`).
Imports: WorkflowEngine.Proofs.DecimalValue, WorkflowEngine.Proofs.PauseRanges
Trusted boundary: none
Main exports: Config.Spells, Binary64.place_clamp, Config.Spells.place_bounded, longer_delays_pause_longer,
  huge_delay_pauses_less
-/
import WorkflowEngine.Proofs.DecimalValue
import WorkflowEngine.Proofs.PauseRanges

namespace WorkflowEngine

/-! ## Clamped numbers in order -/

namespace Binary64

variable {x y : Binary64} {m : Int} {high : Nat}

theorem place_clamp (placed : x.place = some m) (high : Nat) :
    (x.clamp zero (.finite false high)).place = some (max 0 (min m high)) := by
  have below : x.lt zero = decide (m < 0) := by simp [lt, related, placed, zero]
  have above : lt (.finite false high) x = decide ((high : Int) < m) := by simp [lt, related, placed]
  have within : lt (.finite false high) zero = false := by simp [lt, related, zero]
  by_cases negative : m < 0
  · have raised : x.clamp zero (.finite false high) = zero := by
      simp only [clamp, below, negative, decide_true, if_true, within, Bool.false_eq_true, if_false]
    have least : max 0 (min m high) = 0 := by omega
    rw [raised, least]
    rfl
  · simp only [clamp, below, negative, decide_false, Bool.false_eq_true, if_false, above, decide_eq_true_eq]
    split
    · have most : max 0 (min m high) = high := by omega
      rw [most, place_finite_false]
    · have kept : max 0 (min m high) = m := by omega
      rw [kept, placed]

namespace UpTo

variable {low k : Nat}

/-- A number that is not negative is determined by its place, but for the sign of zero. -/
theorem parts_eq (h : x.UpTo high) (placed : x.place = some m) (parts limit : Nat) :
    x.nearestParts parts = roundHalfEven (m.toNat * parts) one ∧ x.wholePart limit = min (m.toNat / one) limit := by
  cases h with
  | positive bounded =>
      cases placed
      exact ⟨rfl, rfl⟩
  | negativeZero =>
      have none : m = 0 := by simpa [place] using placed.symm
      rw [none, Int.toNat_zero, Nat.zero_div, Nat.zero_min]
      exact ⟨rfl, rfl⟩

theorem nearestParts_mono (h : x.UpTo low) (h' : y.UpTo high) (le : x.le y = true) (parts : Nat) :
    x.nearestParts parts ≤ y.nearestParts parts := by
  obtain ⟨m, n, placed, placed', ordered⟩ := le_iff.mp le
  rw [(h.parts_eq placed parts 0).1, (h'.parts_eq placed' parts 0).1]
  apply roundHalfEven_mono one_pos one_pos
  exact Nat.mul_le_mul_right _ (Nat.mul_le_mul_right _ (Int.toNat_le_toNat ordered))

theorem wholePart_mono (h : x.UpTo low) (h' : y.UpTo high) (le : x.le y = true) (limit : Nat) :
    x.wholePart limit ≤ y.wholePart limit := by
  obtain ⟨m, n, placed, placed', ordered⟩ := le_iff.mp le
  rw [(h.parts_eq placed 0 limit).2, (h'.parts_eq placed' 0 limit).2]
  have quotients := Nat.div_le_div_right (c := one) (Int.toNat_le_toNat ordered)
  omega

end UpTo

end Binary64

/-! ## Settings that spell decimal literals -/

/-- A setting is the text of a decimal literal, apart from white space around it. -/
def Config.Spells (config : Config) (key : String) (d : Decimal) : Prop :=
  ∃ s, Json.Object.find? config key = some (.text s) ∧ Decimal.Written (trim s.toList) d

namespace Config.Spells

variable {config config' : Config} {key : String} {d d' : Decimal}

theorem number?_eq (spells : config.Spells key d) :
    config.number? key = (some d.toBinary64).filter Binary64.isFinite := by
  obtain ⟨s, set, written⟩ := spells
  simp only [number?, set, Binary64.read?, Decimal.read?_eq_some_iff.mpr written]

/-- What is too large is not clamped but left out. -/
theorem number?_eq_none (spells : config.Spells key d) (large : 2 ^ 1024 - 2 ^ 970 ≤ d.value) :
    config.number? key = none := by
  rw [spells.number?_eq, Decimal.toBinary64_eq_infinite.mpr large]
  rfl

/-- What is not too large is clamped, by its place on the line. -/
theorem place_bounded (spells : config.Spells key d) (small : d.value < 2 ^ 1024 - 2 ^ 970) (high : Nat) :
    ∃ m, d.toBinary64.place = some m ∧ (config.bounded key high).place = some (max 0 (min m high)) := by
  rw [Config.bounded, spells.number?_eq]
  have notLarge : d.toBinary64 ≠ .infinite false := fun infinite =>
    absurd (Decimal.toBinary64_eq_infinite.mp infinite) (not_le.mpr small)
  cases nearest : d.toBinary64 with
  | nan => exact absurd nearest d.toBinary64_ne_nan
  | finite negative grains => exact ⟨_, rfl, Binary64.place_clamp rfl high⟩
  | infinite negative =>
      cases negative with
      | false => exact absurd nearest notLarge
      | true =>
          -- Negative infinity is left out, which is as well as clamped.
          refine ⟨_, rfl, (Binary64.place_clamp (m := 0) rfl high).trans ?_⟩
          have least : max 0 (min 0 (high : Int)) = max 0 (min (-(Binary64.overflow : Int)) high) := by omega
          rw [least]
          rfl

/-- Larger literals are clamped to larger numbers. -/
theorem bounded_le (spells : config.Spells key d) (spells' : config'.Spells key d') (le : d.value ≤ d'.value)
    (small : d'.value < 2 ^ 1024 - 2 ^ 970) (high : Nat) :
    (config.bounded key high).le (config'.bounded key high) = true := by
  obtain ⟨m, placed, clamped⟩ := spells.place_bounded (lt_of_le_of_lt le small) high
  obtain ⟨n, placed', clamped'⟩ := spells'.place_bounded small high
  obtain ⟨m', n', same, same', ordered⟩ := Binary64.le_iff.mp (Decimal.toBinary64_le le)
  cases placed.symm.trans same
  cases placed'.symm.trans same'
  exact Binary64.le_iff.mpr ⟨_, _, clamped, clamped', by omega⟩

/-- What reaches the limit is clamped to it. -/
theorem place_limit (spells : config.Spells key d) (small : d.value < 2 ^ 1024 - 2 ^ 970) {n : Nat} (exact : n < 2 ^ 53)
    (reached : n ≤ d.value) :
    (config.bounded key (n * Binary64.one)).place = some ((n * Binary64.one : Nat) : Int) := by
  obtain ⟨m, placed, clamped⟩ := spells.place_bounded small (n * Binary64.one)
  have le := Decimal.toBinary64_le ((Decimal.value_whole n).trans_le reached)
  rw [Decimal.toBinary64_whole, ← Binary64.ofNat, Binary64.ofNat_exact exact] at le
  obtain ⟨most, m', limit, same, ordered⟩ := Binary64.le_iff.mp le
  rw [Binary64.place_finite_false, Option.some.injEq] at limit
  cases placed.symm.trans same
  rw [clamped, limit]
  congr 1
  omega

/-- What is not positive is clamped to zero. -/
theorem place_zero (spells : config.Spells key d) (nonpositive : d.value ≤ 0) (high : Nat) :
    (config.bounded key high).place = some 0 := by
  have small : d.value < 2 ^ 1024 - 2 ^ 970 :=
    nonpositive.trans_lt (sub_pos.mpr (pow_lt_pow_right₀ one_lt_two (by decide)))
  obtain ⟨m, placed, clamped⟩ := spells.place_bounded small high
  have le := Decimal.toBinary64_le (nonpositive.trans (Decimal.value_whole 0).ge)
  obtain ⟨m', _, same, zero, ordered⟩ := Binary64.le_iff.mp le
  cases zero
  cases placed.symm.trans same
  rw [clamped]
  congr 1
  omega

end Config.Spells

/-! ## Pauses in order -/

/-- How pauses compare that are set by decimal literals.  Up to the largest double, a larger value never pauses less,
and what reaches a limit pauses for the limit; what is not positive does not pause.  But neither does what is too
large: it counts as no number. -/
theorem longer_delays_pause_longer {x : Executor} {ceiling limitMs : Nat} (delays : x.maxDelayMs = 1000 * ceiling)
    (exact : ceiling < 2 ^ 53) (waits : x.registry.find? "wait" = some (.wait limitMs)) (exactMs : limitMs < 2 ^ 53)
    {config config' : Config} {d d' : Decimal} (spells : config.Spells "delay" d) (spells' : config'.Spells "delay" d')
    (le : d.value ≤ d'.value) :
    ∃ seconds ms seconds' ms', x.PausesFor config seconds ms ∧ x.PausesFor config' seconds' ms' ∧
      (d'.value < 2 ^ 1024 - 2 ^ 970 →
        seconds.le seconds' = true ∧ seconds.nearestParts 1000000000 ≤ seconds'.nearestParts 1000000000 ∧ ms ≤ ms' ∧
          (ceiling ≤ d'.value → seconds'.eq (.ofNat ceiling) = true) ∧ (limitMs ≤ d'.value → ms' = limitMs)) ∧
      (2 ^ 1024 - 2 ^ 970 ≤ d'.value → seconds' = .zero ∧ ms' = 0) ∧
      (d'.value ≤ 0 → seconds'.eq .zero = true ∧ seconds'.nearestParts 1000000000 = 0 ∧ ms' = 0) := by
  have upTo (config : Config) (high : Nat) := config.bounded_upTo "delay" high
  refine ⟨_, _, _, _, Executor.pausesFor config waits, Executor.pausesFor config' waits, ?_⟩
  simp only [Executor.delaySeconds_eq delays exact, waitMs_eq exactMs]
  refine ⟨?_, ?_, ?_⟩
  · intro small
    have le (high : Nat) := spells.bounded_le spells' le small high
    refine ⟨le _, (upTo _ _).nearestParts_mono (upTo _ _) (le _) _,
      (upTo _ _).wholePart_mono (upTo _ _) (le _) _, ?_, ?_⟩
    · intro reached
      rw [Binary64.ofNat_exact exact]
      exact Binary64.eq_iff.mpr ⟨_, spells'.place_limit small exact reached, rfl⟩
    · intro reached
      rw [((upTo _ _).parts_eq (spells'.place_limit small exactMs reached) 0 _).2, Int.toNat_natCast,
        Nat.mul_div_cancel _ Binary64.one_pos]
      exact Nat.min_eq_left (Nat.le_trans (Nat.le_of_lt exactMs) (by decide))
  · intro large
    have none := spells'.number?_eq_none large
    rw [Config.bounded_eq_zero none, Config.bounded_eq_zero none]
    exact ⟨rfl, Binary64.wholePart_zero _⟩
  · intro nonpositive
    have none (high : Nat) := spells'.place_zero nonpositive high
    refine ⟨Binary64.eq_iff.mpr ⟨_, none _, rfl⟩, ?_, ?_⟩
    · rw [((upTo _ _).parts_eq (none _) _ 0).1]
      exact Binary64.roundHalfEven_zero _
    · rw [((upTo _ _).parts_eq (none _) 0 _).2, Int.toNat_zero, Nat.zero_div, Nat.zero_min]

theorem longer_delays_pause_longer_minutes :
    ∃ seconds ms seconds' ms', (Executor.standard 1).PausesFor [("delay", .text "-1.5")] seconds ms ∧
      (Executor.standard 1).PausesFor [("delay", .text "2e6")] seconds' ms' ∧ seconds.le seconds' = true ∧
        seconds'.eq (.ofNat 300) = true ∧ ms ≤ ms' ∧ ms' = 60000 := by
  have spells : Config.Spells [("delay", .text "-1.5")] "delay" ⟨true, 15, -1⟩ :=
    ⟨_, rfl, Decimal.read?_eq_some_iff.mp (by decide +kernel)⟩
  have spells' : Config.Spells [("delay", .text "2e6")] "delay" ⟨false, 2, 6⟩ :=
    ⟨_, rfl, Decimal.read?_eq_some_iff.mp (by decide +kernel)⟩
  have fiveMinutes : (Executor.standard 1).maxDelayMs = 1000 * 300 := rfl
  have reaches (n : Nat) (below : Decimal.value ⟨false, n, 0⟩ ≤ Decimal.value ⟨false, 2, 6⟩) :
      n ≤ Decimal.value ⟨false, 2, 6⟩ := (Decimal.value_whole n).symm.trans_le below
  have small : Decimal.value ⟨false, 2, 6⟩ < 2 ^ 1024 - 2 ^ 970 := by
    apply lt_of_not_ge
    intro large
    exact absurd (Decimal.toBinary64_eq_infinite.mpr large) (by decide +kernel)
  obtain ⟨seconds, ms, seconds', ms', pauses, pauses', compared, -, -⟩ :=
    longer_delays_pause_longer fiveMinutes (by decide) rfl (by decide) spells spells'
      (Decimal.value_le_iff.mpr (by decide +kernel))
  obtain ⟨le, -, leMs, reached, reachedMs⟩ := compared small
  exact ⟨seconds, ms, seconds', ms', pauses, pauses', le,
    reached (reaches 300 (Decimal.value_le_iff.mpr (by decide +kernel))), leMs,
    reachedMs (reaches 60000 (Decimal.value_le_iff.mpr (by decide +kernel)))⟩

/-- A larger literal can pause less: one second is waited for, and `1e400` seconds are not. -/
theorem huge_delay_pauses_less :
    ¬ ∀ (config config' : Config) (d d' : Decimal), config.Spells "delay" d → config'.Spells "delay" d' →
      d.value ≤ d'.value → ∀ seconds ms seconds' ms', (Executor.standard 1).PausesFor config seconds ms →
        (Executor.standard 1).PausesFor config' seconds' ms' → seconds.le seconds' = true ∧ ms ≤ ms' := by
  intro claimed
  have spells : Config.Spells [("delay", .text "1")] "delay" ⟨false, 1, 0⟩ :=
    ⟨_, rfl, Decimal.read?_eq_some_iff.mp (by decide +kernel)⟩
  have spells' : Config.Spells [("delay", .text "1e400")] "delay" ⟨false, 1, 400⟩ :=
    ⟨_, rfl, Decimal.read?_eq_some_iff.mp (by decide +kernel)⟩
  obtain ⟨-, leMs⟩ := claimed _ _ _ _ spells spells' (Decimal.value_le_iff.mpr (by decide +kernel)) _ _ _ _
    (Executor.pausesFor _ rfl) (Executor.pausesFor _ rfl)
  exact absurd leMs (by decide +kernel)

end WorkflowEngine
