/-
Module: WorkflowEngine.Proofs.PauseRanges
Layer: Proofs
Purpose: What a pause comes to, whatever its setting holds.  A setting holds a number if it is a finite one or the text
  of a decimal literal that is not too large (`Config.number?_eq_some_iff`); everything else counts as zero.  A delay
  node and a wait complete with what they found between zero and the limit, and sleep for just as long
  (`pauses_within_limits`).
Imports: WorkflowEngine.Proofs.BoundedTime, WorkflowEngine.Proofs.DecimalText
Trusted boundary: none
Main exports: Config.Holds, Config.number?_eq_some_iff, Binary64.nanoseconds?, Executor.Pauses, Executor.PausesFor,
  Executor.pausesFor, Config.bounded, pauses_within_limits
-/
import WorkflowEngine.Proofs.BoundedTime
import WorkflowEngine.Proofs.DecimalText

namespace WorkflowEngine

/-! ## Settings that hold a number -/

namespace Binary64

/-- The names stand for what is not finite. -/
theorem not_isFinite_of_ofName? {name : List Char} {x : Binary64} (named : ofName? name = some x) (negative : Bool) :
    (x.withSign negative).isFinite = false := by
  simp only [ofName?] at named
  split at named
  · cases named
    rfl
  · split at named
    · cases named
      rfl
    · cases named

/-- A text that is read as a finite number is a decimal literal. -/
theorem of_read? {cs : List Char} {x : Binary64} (read : Binary64.read? cs = some x) (finite : x.isFinite = true) :
    ∃ d, Decimal.Written cs d ∧ d.toBinary64 = x := by
  unfold Binary64.read? at read
  split at read
  · rename_i d literal
    cases read
    exact ⟨d, Decimal.read?_eq_some_iff.mp literal, rfl⟩
  · obtain ⟨magnitude, named, rfl⟩ := Option.map_eq_some_iff.mp read
    rw [not_isFinite_of_ofName? named] at finite
    cases finite

end Binary64

namespace Config

variable {config : Config} {key : String} {x : Binary64}

/-- A setting holds a finite number: as a number, or as the text of a decimal literal. -/
inductive Holds (config : Config) (key : String) : Binary64 → Prop where
  | number {n : Json.Number} (set : Json.Object.find? config key = some (.number n))
      (finite : n.toBinary64.isFinite = true) : Holds config key n.toBinary64
  | text {s : String} {d : Decimal} (set : Json.Object.find? config key = some (.text s))
      (written : Decimal.Written (trim s.toList) d) (finite : d.toBinary64.isFinite = true) :
      Holds config key d.toBinary64

theorem number?_eq_some_iff : config.number? key = some x ↔ config.Holds key x := by
  constructor
  · intro found
    obtain ⟨held, finite⟩ := Option.filter_eq_some_iff.mp found
    split at held
    · cases held
      exact .number ‹_› finite
    · obtain ⟨d, written, rfl⟩ := Binary64.of_read? held finite
      exact .text ‹_› written finite
    · cases held
  · intro holds
    cases holds with
    | number set finite =>
        apply Option.filter_eq_some_iff.mpr
        simp only [set]
        exact ⟨trivial, finite⟩
    | text set written finite =>
        apply Option.filter_eq_some_iff.mpr
        simp only [set, Binary64.read?, Decimal.read?_eq_some_iff.mpr written]
        exact ⟨trivial, finite⟩

theorem number?_eq_none (without : ∀ x, ¬ config.Holds key x) : config.number? key = none := by
  rw [Option.eq_none_iff_forall_ne_some]
  intro x found
  exact without x (number?_eq_some_iff.mp found)

end Config

/-! ## Durations -/

namespace Binary64

variable {x : Binary64} {high k : Nat}

/-- So many seconds in nanoseconds, to the nearest one.  There is no such duration for what is negative, infinite or not
a number, nor for `2 ^ 64` seconds and more. -/
def nanoseconds? (x : Binary64) : Option Nat :=
  match x with
  | .finite false grains => if grains < Nat.pow 2 64 * one then some (x.nearestParts 1000000000) else none
  | .finite true 0 => some 0
  | _ => none

theorem clamp_zero (high : Nat) : zero.clamp zero (.finite false high) = zero := by
  have within : lt (.finite false high) zero = false := by
    simp [lt, related, zero]
  simp only [clamp, within, Bool.false_eq_true, if_false, ite_self]

theorem wholePart_zero (limit : Nat) : zero.wholePart limit = 0 := by
  rw [zero, wholePart, Nat.zero_div, Nat.zero_min]

theorem roundHalfEven_zero (parts : Nat) : roundHalfEven (0 * parts) one = 0 := by
  rw [Nat.zero_mul]
  exact Nat.le_zero.mp (roundHalfEven_le one_pos (Nat.zero_le _))

namespace UpTo

/-- Whatever lies between zero and less than `2 ^ 64` seconds can be slept. -/
theorem nanoseconds?_eq (h : x.UpTo (k * one)) (small : k < Nat.pow 2 64) :
    x.nanoseconds? = some (x.nearestParts 1000000000) := by
  cases h with
  | positive bounded =>
      rw [nanoseconds?, if_pos (Nat.lt_of_le_of_lt bounded (Nat.mul_lt_mul_of_pos_right small one_pos))]
  | negativeZero =>
      rw [nearestParts, roundHalfEven_zero]
      rfl

theorem le (h : x.UpTo high) : zero.le x = true ∧ x.le (.finite false high) = true := by
  cases h with
  | positive bounded => simp [Binary64.le, related, zero, bounded]
  | negativeZero => simp [Binary64.le, related, place, zero]

end UpTo

end Binary64

/-! ## Pauses -/

namespace Executor

variable (x : Executor) (config : Config)

/-- A visit to a node does nothing but pause, wherever the run stands and whatever the world: it succeeds with its
output so many milliseconds later. -/
def Pauses (node : Node) (output : NodeOutput) (ms : Nat) : Prop :=
  ∀ {σ : Type} [Store σ] (env : Environment) (w : World σ) (execution : Execution) (context : Context),
    (x.visit execution node context).run env w = (some (.ok output), w.later ms)

/-- With these settings a delay node pauses for so many seconds, to the nearest nanosecond and up to the next whole
millisecond, and a wait for so many milliseconds. -/
structure PausesFor (seconds : Binary64) (ms : Nat) : Prop where
  delay : ∀ id label, x.Pauses ⟨id, .delay, label, config⟩ (.delay seconds)
    (World.wholeMs (seconds.nearestParts 1000000000))
  wait : ∀ id label, x.Pauses ⟨id, .action (some "wait"), label, config⟩ (.action (.waited ms)) ms

variable {x}

theorem pausesFor {limitMs : Nat} (waits : x.registry.find? "wait" = some (.wait limitMs)) :
    x.PausesFor config (x.delaySeconds config) (waitMs config limitMs) where
  delay id label := by
    intro σ _ env w execution context
    rfl
  wait id label := by
    intro σ _ env w execution context
    have whole : World.wholeMs (waitMs config limitMs * 1000000) = waitMs config limitMs := by
      rw [World.wholeMs]
      omega
    have dispatched (told : ActionContext) :
        x.registry.dispatch (some "wait") config told = (Handler.wait limitMs).run config told := by
      rw [Registry.dispatch, Option.bind_some, waits]
    simp only [visit, dispatched]
    change (_, w.later (World.wholeMs (waitMs config limitMs * 1000000))) = _
    rw [whole]
    rfl

end Executor

/-- What a setting counts as between zero and so many grains. -/
def Config.bounded (config : Config) (key : String) (high : Nat) : Binary64 :=
  ((config.number? key).getD .zero).clamp .zero (.finite false high)

theorem Config.bounded_upTo (config : Config) (key : String) (high : Nat) : (config.bounded key high).UpTo high :=
  Binary64.clamp_upTo (config.number?_getD_isFinite key) high

theorem Config.bounded_eq_zero {config : Config} {key : String} (none : config.number? key = none) (high : Nat) :
    config.bounded key high = .zero := by
  rw [bounded, none, Option.getD_none, Binary64.clamp_zero]

theorem Executor.delaySeconds_eq {x : Executor} {ceiling : Nat} (delays : x.maxDelayMs = 1000 * ceiling)
    (exact : ceiling < 2 ^ 53) (config : Config) :
    x.delaySeconds config = config.bounded "delay" (ceiling * Binary64.one) := by
  rw [delaySeconds, delays, secondsOfMs_whole exact, Config.bounded]

theorem waitMs_eq {limitMs : Nat} (exact : limitMs < 2 ^ 53) (config : Config) :
    waitMs config limitMs = (config.bounded "delay" (limitMs * Binary64.one)).wholePart (Nat.pow 2 64 - 1) := by
  rw [waitMs, Binary64.ofNat_exact exact, Config.bounded]

/-- With the limits that hold unless others are set, delays and waits never fail and stay in range, whatever the
settings hold: a delay completes with a duration that can be slept and that lies between zero and five minutes, a wait
with no more than a minute, and each sleeps for as long as it says.  Where a finite number is held, that is the number
clamped, and where none is held no time at all. -/
theorem pauses_within_limits (maxSteps : Nat) (config : Config) :
    ∃ seconds ms, (Executor.standard maxSteps).PausesFor config seconds ms ∧
      seconds.nanoseconds? = some (seconds.nearestParts 1000000000) ∧
      Binary64.zero.le seconds = true ∧ seconds.le (.ofNat 300) = true ∧ ms ≤ 60000 ∧
      (∀ x, config.Holds "delay" x → seconds = x.clamp .zero (.ofNat 300) ∧
        ms = (x.clamp .zero (.ofNat 60000)).wholePart (Nat.pow 2 64 - 1)) ∧
      ((∀ x, ¬ config.Holds "delay" x) → seconds = .zero ∧ ms = 0) := by
  have fiveMinutes : (Executor.standard maxSteps).maxDelayMs = 1000 * 300 := rfl
  have exact : 300 < 2 ^ 53 := by decide
  have delay : ((Executor.standard maxSteps).delaySeconds config).UpTo (300 * Binary64.one) := by
    rw [Executor.delaySeconds_eq fiveMinutes exact]
    exact config.bounded_upTo "delay" _
  refine ⟨_, _, Executor.pausesFor config rfl, delay.nanoseconds?_eq (by decide), delay.le.1, ?_,
    waitMs_le config (by decide), ?_, ?_⟩
  · rw [Binary64.ofNat_exact exact]
    exact delay.le.2
  · intro x holds
    rw [Executor.delaySeconds_eq fiveMinutes exact, waitMs, Config.bounded, Config.number?_eq_some_iff.mpr holds,
      Option.getD_some, Binary64.ofNat_exact exact]
    exact ⟨rfl, rfl⟩
  · intro without
    have none := Config.number?_eq_none without
    rw [Executor.delaySeconds_eq fiveMinutes exact, waitMs_eq (by decide), Config.bounded_eq_zero none,
      Config.bounded_eq_zero none]
    exact ⟨rfl, Binary64.wholePart_zero _⟩

end WorkflowEngine
