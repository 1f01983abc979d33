/-
Module: WorkflowEngine.Proofs.BoundedTime
Layer: Proofs
Purpose: How long a run can last.  A process is judged once for all answers and for how long each may take
  (`Process.Timed`).  If no visit takes longer than a limit, a run takes no longer than the limit for each of its
  steps (`Executor.runAttached_timed`); the handlers that are built in keep to a limit whatever the settings say
  (`Executor.standard_paced`), so every run ends in bounded time (`run_ends_in_time`).
Imports: WorkflowEngine.Proofs.DoubleStart, WorkflowEngine.Proofs.Pauses, WorkflowEngine.Proofs.ValidRuns,
  WorkflowEngine.Proofs.WebhookCalls
Trusted boundary: none
Main exports: Request.Takes, Process.Timed, Process.Timed.run, Executor.Paced, Executor.runAttached_timed,
  Executor.standard_paced, run_ends_in_time
-/
import WorkflowEngine.Proofs.DoubleStart
import WorkflowEngine.Proofs.Pauses
import WorkflowEngine.Proofs.ValidRuns
import WorkflowEngine.Proofs.WebhookCalls

namespace WorkflowEngine

/-! ## Time judgements -/

/-- What a request may be answered with at a time, and how many milliseconds that may take, where the store serves
every call. -/
def Request.Takes (now : Instant) : (r : Request) → r.Answer → Nat → Prop
  | .store _, reply, ms => ms = 0 ∧ ∀ f, reply = .error f → f = .notFound
  | .clock, t, ms => t = now ∧ ms = 0
  | .sleep nanoseconds, _, ms => ms = World.wholeMs nanoseconds
  | .exchange _ timeoutMs, _, ms => ms ≤ timeoutMs
  | .freshId, _, ms | .deliver _, _, ms | .note .., _, ms => ms = 0

namespace Process

variable {α β : Type} {p : Process α} {ends : α → Instant → Prop} {t : Instant}

/-- From a time on, a process ends only with a value and at a time that belong together. -/
def Timed (ends : α → Instant → Prop) : Process α → Instant → Prop
  | .done a, t => ends a t
  | .ask r next, t => ∀ a ms, r.Takes t a ms → Timed ends (next a) (t + ms)

namespace Timed

theorem mono {other : α → Instant → Prop} (h : p.Timed ends t) (imp : ∀ a t', ends a t' → other a t') :
    p.Timed other t := by
  induction p generalizing t with
  | done a => exact imp a t h
  | ask r next ih => exact fun a ms takes => ih a (h a ms takes)

/-- One process after another: the second begins when the first ends. -/
theorem bind {f : α → Process β} {other : β → Instant → Prop} (h : p.Timed ends t)
    (hf : ∀ a t', ends a t' → (f a).Timed other t') : (p >>= f).Timed other t := by
  induction p generalizing t with
  | done a => exact hf a t h
  | ask r next ih => exact fun a ms takes => ih a (h a ms takes)

end Timed

/-- Nothing is said about how a process ends. -/
theorem timed_any (p : Process α) (t : Instant) : p.Timed (fun _ _ => True) t := by
  induction p generalizing t with
  | done a => trivial
  | ask r next ih => exact fun a ms _ => ih a (t + ms)

end Process

/-- The only failure of a store in memory is that something is not there. -/
theorem MemoryStore.answer_error {stamp : Stamp} {call : StoreCall} {s s' : MemoryStore} {f : StoreFault}
    (h : answer stamp call s = (.error f, s')) : f = .notFound := by
  cases call with
  | createExecution | listNodes | listEdges | listSteps => cases congrArg Prod.fst h
  | getExecution | getWorkflow =>
      simp only [answer, Prod.mk.injEq, found] at h
      split at h
      · cases h.1
      · cases h.1
        rfl
  | markRunning | finishExecution =>
      simp only [answer] at h
      split at h
      · cases h
        rfl
      · split at h <;> cases h <;> rfl
  | insertStep =>
      simp only [answer] at h
      split at h <;> cases h
      rfl

/-- Where no call fails, requests take as long as they may, and time stands still while they are answered. -/
theorem World.answer_takes {env : Environment} {w w' : World MemoryStore} (faultless : env.Faultless) {r : Request}
    {a : r.Answer} {ms : Nat} (h : answer env r w = (some (a, ms), w')) : r.Takes w.now a ms ∧ w'.now = w.now := by
  cases r with
  | store call =>
      simp only [answer, call_faultless faultless, Prod.mk.injEq, Option.map_some, Option.some.injEq] at h
      obtain ⟨⟨rfl, rfl⟩, rfl⟩ := h
      exact ⟨⟨rfl, fun f failed => MemoryStore.answer_error (Prod.ext failed rfl)⟩, rfl⟩
  | exchange request timeoutMs =>
      simp only [answer, Prod.mk.injEq, Option.some.injEq] at h
      obtain ⟨told, rfl⟩ := h
      have inTime := waitFor_le (env.transport w.requests request) timeoutMs
      rw [told] at inTime
      exact ⟨inTime, rfl⟩
  | deliver mail =>
      simp only [answer] at h
      split at h <;> cases h <;> exact ⟨rfl, rfl⟩
  | clock =>
      cases h
      exact ⟨⟨rfl, rfl⟩, rfl⟩
  | freshId | sleep | note =>
      cases h
      exact ⟨rfl, rfl⟩

/-- A run that is alone keeps to the time that its process was judged to take. -/
theorem Process.Timed.run {env : Environment} (faultless : env.Faultless) {α : Type} {p : Process α}
    {ends : α → Instant → Prop} {w : World MemoryStore} (h : p.Timed ends w.now) {a : α}
    (result : (p.run env w).1 = some a) : ends a (p.run env w).2.now := by
  induction p generalizing w with
  | done b =>
      cases result
      exact h
  | ask r next ih =>
      obtain ⟨b, ms, w', told⟩ := faultless.refuses.answered r w
      obtain ⟨takes, still⟩ := World.answer_takes faultless told
      have rest := h b ms takes
      rw [← still] at rest
      simp only [Process.run, told] at result ⊢
      exact ih b (w := w'.later ms) rest result

/-! ## Time judgements of tasks -/

/-- A task that succeeds does so with a value and at a time that belong together. -/
def OnSuccess {α : Type} (ends : α → Instant → Prop) : Except EngineError α → Instant → Prop
  | .ok a, t => ends a t
  | .error _, _ => True

namespace Task

variable {α β : Type} {t : Instant} {m : Task α}

theorem timed_bind {f : α → Task β} {ends : Except EngineError β → Instant → Prop}
    (h : m.run.Timed (fun r t' => match r with
      | .ok a => (f a).run.Timed ends t'
      | .error e => ends (.error e) t') t) : (m >>= f).run.Timed ends t := by
  apply h.bind
  intro r t' ended
  cases r with
  | ok a => exact ended
  | error e => exact ended

theorem timed_tryCatch {f : EngineError → Task α} {ends : Except EngineError α → Instant → Prop}
    (h : m.run.Timed (fun r t' => match r with
      | .ok a => ends (.ok a) t'
      | .error e => (f e).run.Timed ends t') t) : (tryCatch m f).run.Timed ends t := by
  apply h.bind
  intro r t' ended
  cases r with
  | ok a => exact ended
  | error e => exact ended

theorem timed_onSuccess_mono {ends other : α → Instant → Prop} (h : m.run.Timed (OnSuccess ends) t)
    (imp : ∀ a t', ends a t' → other a t') : m.run.Timed (OnSuccess other) t := by
  apply h.mono
  intro r t' ended
  cases r with
  | ok a => exact imp a t' ended
  | error e => trivial

theorem timed_onSuccess_bind (mid : α → Instant → Prop) {f : α → Task β} {ends : β → Instant → Prop}
    (h : m.run.Timed (OnSuccess mid) t) (hf : ∀ a t', mid a t' → (f a).run.Timed (OnSuccess ends) t') :
    (m >>= f).run.Timed (OnSuccess ends) t := by
  apply timed_bind
  apply h.mono
  intro r t' ended
  cases r with
  | ok a => exact hf a t' ended
  | error e => trivial

/-- Looking at the clock takes no time. -/
theorem timed_clock {f : Instant → Task β} {ends : Except EngineError β → Instant → Prop}
    (h : (f t).run.Timed ends t) : (request .clock >>= f).run.Timed ends t := by
  apply timed_bind
  rintro now _ ⟨rfl, rfl⟩
  exact h

theorem timed_ask {c : StoreCall} {f : StoreReply c → Task β} {ends : Except EngineError β → Instant → Prop}
    (h : ∀ reply, (f reply).run.Timed ends t) : (ask c >>= f).run.Timed ends t := by
  apply timed_bind
  rintro reply _ ⟨rfl, -⟩
  exact h reply

/-- A call takes no time, and fails only where something is not there. -/
theorem timed_call {c : StoreCall} {ends : Except EngineError c.Answer → Instant → Prop} (ok : ∀ a, ends (.ok a) t)
    (missing : ends (.error (.store .notFound)) t) : (call c).run.Timed ends t := by
  rintro reply _ ⟨rfl, served⟩
  cases reply with
  | ok a => exact ok a
  | error f =>
      cases served f rfl
      exact missing

end Task

/-! ## Runs -/

/-- No visit takes longer than a limit. -/
def Executor.Paced (x : Executor) (limitMs : Nat) : Prop :=
  ∀ e node context t, (x.visit e node context).Timed (fun _ t' => t' ≤ t + limitMs) t

section Runs

variable {x : Executor} {e : Execution} {limitMs : Nat} {t : Instant}

/-- Ending an execution takes no time and records how long it lasted. -/
theorem finish_timed (id : Uuid) (clock : RunClock) (stepFailed : Bool) (error : Option String) :
    (finish id clock stepFailed error).run.Timed (fun r t' => t' = t ∧ match r with
      | .ok finished => finished.durationMs = clock.elapsedMs t
      | .error e => e = .store .notFound) t := by
  apply Task.timed_clock
  apply Task.timed_bind
  apply Task.timed_call
  · exact fun _ => ⟨rfl, rfl⟩
  · exact ⟨rfl, rfl⟩

/-- Ending an execution is not tried again where the store serves every call. -/
theorem finalize_timed (id : Uuid) (clock : RunClock) (stepFailed : Bool) (error : Option String)
    (pauses : List Nat) : (finalize id clock stepFailed error pauses).run.Timed
      (OnSuccess fun finished t' => t' = t ∧ finished.durationMs = clock.elapsedMs t) t := by
  cases pauses with
  | nil =>
      apply (finish_timed id clock stepFailed error).mono
      rintro (e | finished) t' ended
      · trivial
      · exact ended
  | cons pause pauses =>
      apply Task.timed_tryCatch
      apply (finish_timed id clock stepFailed error).mono
      rintro (e | finished) t' ⟨still, ended⟩
      · simp only [ended, if_true]
        trivial
      · exact ⟨still, ended⟩

namespace Executor

theorem recordVisit_timed (paced : x.Paced limitMs) (node : Node) (context : Context) :
    (x.recordVisit e node context).run.Timed (fun _ t' => t' ≤ t + limitMs) t := by
  apply Task.timed_clock
  apply Task.timed_bind
  apply (paced e node context t).bind
  intro result t' visited
  apply Task.timed_clock
  apply Task.timed_bind
  rintro id _ rfl
  apply Task.timed_bind
  apply Task.timed_call
  · exact fun _ => visited
  · exact visited

/-- A walk lasts no longer than the limit for each of its steps. -/
theorem walk_timed (paced : x.Paced limitMs) (g : Graph) (left taken : Nat) (context : Context)
    (node : Option Node) : (x.walk e g left taken context node).run.Timed
      (OnSuccess fun outcome t' => ∃ n, outcome.stepsExecuted = taken + n ∧ t' ≤ t + limitMs * n) t := by
  induction left generalizing taken context node t with
  | zero =>
      cases node with
      | none => exact ⟨0, rfl, Nat.le_refl _⟩
      | some node => exact ⟨0, rfl, Nat.le_refl _⟩
  | succ left ih =>
      cases node with
      | none => exact ⟨0, rfl, Nat.le_refl _⟩
      | some node =>
          apply Task.timed_bind
          apply (recordVisit_timed paced node context).mono
          intro r t' visited
          have single : ∃ n, taken + 1 = taken + n ∧ t' ≤ t + limitMs * n := ⟨1, rfl, by rwa [Nat.mul_one]⟩
          cases r with
          | error e => trivial
          | ok result =>
              cases result with
              | error message => exact single
              | ok output =>
                  simp only
                  split
                  · exact single
                  · apply Task.timed_onSuccess_mono (ih ..)
                    rintro outcome t'' ⟨n, steps, inTime⟩
                    refine ⟨n + 1, steps.trans (by omega), ?_⟩
                    calc t''
                      _ ≤ t' + limitMs * n := inTime
                      _ ≤ t + limitMs + limitMs * n := Nat.add_le_add_right visited _
                      _ = t + limitMs * (n + 1) := by rw [Nat.mul_succ, Nat.add_assoc, Nat.add_comm limitMs]

theorem drive_timed (paced : x.Paced limitMs) (e : Execution) : (x.drive e).run.Timed
    (OnSuccess fun outcome t' => t' ≤ t + limitMs * outcome.stepsExecuted) t := by
  apply Task.timed_ask
  intro reply
  rcases reply with f | row
  · cases f with
    | notFound => exact Nat.le_refl _
    | database | migration => trivial
  · apply Task.timed_bind
    refine Task.timed_call (fun nodes => ?_) trivial
    apply Task.timed_bind
    refine Task.timed_call (fun edges => ?_) trivial
    simp only
    split
    · exact Nat.le_refl _
    · apply Task.timed_onSuccess_mono (walk_timed paced ..)
      rintro outcome t' ⟨n, steps, inTime⟩
      rwa [steps, Nat.zero_add]

/-- A run that has started its execution ends in time, and the time is what it records. -/
theorem runStarted_timed (paced : x.Paced limitMs) (e : Execution) (startedAt : Instant) :
    (x.runStarted e ⟨startedAt, t⟩).run.Timed
      (OnSuccess fun summary t' => t' ≤ t + limitMs * summary.stepsExecuted ∧ summary.durationMs = ↑(t' - t)) t := by
  refine Task.timed_onSuccess_bind (fun outcome t' => t' ≤ t + limitMs * outcome.stepsExecuted) ?_
    fun outcome t' driven => ?_
  · apply Task.timed_tryCatch
    apply (drive_timed paced e).mono
    rintro (err | outcome) t' driven
    · -- A walk that breaks off makes the run an error, so nothing has to be shown of the remedy.
      apply Task.timed_bind
      apply (Process.timed_any _ _).mono
      rintro (_ | _) _ - <;> trivial
    · exact driven
  · refine Task.timed_onSuccess_bind _ (finalize_timed ..) fun finished t'' ended => ?_
    obtain ⟨rfl, lasted⟩ := ended
    exact ⟨driven, congrArg Int.ofNat lasted⟩

theorem load_timed (id : Uuid) : (load id).run.Timed (OnSuccess fun _ t' => t' = t) t := by
  apply Task.timed_ask
  intro reply
  rcases reply with f | row
  · cases f <;> trivial
  · simp only
    cases row.toExecution with
    | ok e => exact rfl
    | error reason => trivial

theorem start_timed (e : Execution) :
    (start e).run.Timed (OnSuccess fun clock t' => t' = t ∧ clock.anchor = t) t := by
  unfold start
  split
  · trivial
  · apply Task.timed_clock
    apply Task.timed_bind
    refine Task.timed_call (fun won => ?_) trivial
    cases won with
    | false => trivial
    | true =>
        apply Task.timed_clock
        exact ⟨rfl, rfl⟩

/-- The run of an execution ends in time, and records no more than that time. -/
theorem runAttached_timed (paced : x.Paced limitMs) (id : Uuid) : (x.runAttached id).run.Timed
    (OnSuccess fun summary t' => t' ≤ t + limitMs * summary.stepsExecuted ∧ summary.durationMs = ↑(t' - t)) t := by
  refine Task.timed_onSuccess_bind _ (load_timed id) fun execution t' loaded => ?_
  subst loaded
  refine Task.timed_onSuccess_bind _ (start_timed execution) fun clock t' started => ?_
  obtain ⟨startedAt, anchor⟩ := clock
  obtain ⟨rfl, rfl⟩ := started
  exact runStarted_timed paced execution startedAt

end Executor

end Runs

/-! ## Visits -/

/-- A handler takes no longer than a limit: webhooks and waits have one of their own, and no other handler takes any
time. -/
def Handler.Paced (limitMs : Nat) : Handler → Prop
  | .webhook timeoutMs => timeoutMs ≤ limitMs
  | .wait waitLimitMs => waitLimitMs < 2 ^ 53 ∧ waitLimitMs ≤ limitMs
  | _ => True

section Visits

variable {limitMs : Nat} {t : Instant}

theorem Handler.runAttached_timed {h : Handler} (paced : h.Paced limitMs) (config : Config) (context : ActionContext) :
    (h.run config context).Timed (fun _ t' => t' ≤ t + limitMs) t := by
  have atOnce : t ≤ t + limitMs := Nat.le_add_right ..
  cases h with
  | sendMessage => exact atOnce
  | runAgent =>
      simp only [run]
      split
      · exact atOnce
      · exact atOnce
  | sendEmail =>
      rintro reply _ rfl
      cases reply with
      | ok => exact atOnce
      | error reason => exact atOnce
  | webhook timeoutMs =>
      simp only [run]
      split
      · exact atOnce
      · intro reply ms inTime
        have within : t + ms ≤ t + limitMs := Nat.add_le_add_left (Nat.le_trans inTime paced) t
        rcases reply with _ | _ | status
        · exact within
        · exact within
        · exact within
  | wait waitLimitMs =>
      obtain ⟨small, within⟩ := paced
      rintro _ _ rfl
      have clamped := waitMs_le config small
      have whole : World.wholeMs (waitMs config waitLimitMs * 1000000) = waitMs config waitLimitMs := by
        rw [World.wholeMs]
        omega
      change t + World.wholeMs (waitMs config waitLimitMs * 1000000) ≤ t + limitMs
      rw [whole]
      exact Nat.add_le_add_left (Nat.le_trans clamped within) t
  | supplied | stateful =>
      rintro before _ rfl
      exact atOnce

/-- If its handlers and its delays take no longer than a limit, neither does any visit of an executor. -/
theorem Executor.paced {x : Executor} (handlers : ∀ type h, x.registry.find? type = some h → h.Paced limitMs)
    (seconds : Nat) (whole : x.maxDelayMs = 1000 * seconds) (small : seconds < 2 ^ 53)
    (delays : x.maxDelayMs ≤ limitMs) : x.Paced limitMs := by
  intro e node context t
  have atOnce : t ≤ t + limitMs := Nat.le_add_right ..
  unfold visit
  split
  · exact atOnce
  · rename_i type kind
    have dispatched : (x.registry.dispatch type node.config (actionContext e node)).Timed
        (fun _ t' => t' ≤ t + limitMs) t := by
      unfold Registry.dispatch
      split
      · rename_i h found
        obtain ⟨name, -, found⟩ := Option.bind_eq_some_iff.mp found
        exact Handler.runAttached_timed (handlers name h found) ..
      · exact atOnce
    exact dispatched.bind fun _ _ within => within
  · exact atOnce
  · rintro _ _ rfl
    exact Nat.add_le_add_left (Nat.le_trans (x.delay_le node.config whole small) delays) t
  · exact atOnce
  · exact atOnce

end Visits

/-- The executor with the handlers that are built in and the limits that hold unless others are set: half a minute
for a webhook, a minute for a wait, and five minutes for a delay. -/
def Executor.standard (maxSteps : Nat) : Executor := ⟨.builtins 30000 60000, maxSteps, 300000⟩

theorem Executor.standard_paced (maxSteps : Nat) : (standard maxSteps).Paced 300000 := by
  refine paced (fun type h found => ?_) 300 rfl (by decide) (Nat.le_refl _)
  have member := Registry.mem_of_find? found
  simp only [standard, Registry.builtins, List.mem_cons, Prod.mk.injEq, List.not_mem_nil, or_false] at member
  rcases member with ⟨-, rfl⟩ | ⟨-, rfl⟩ | ⟨-, rfl⟩ | ⟨-, rfl⟩ | ⟨-, rfl⟩ <;> simp [Handler.Paced]

/-! ## Every run ends -/

/-- An execution has ended, and its run took no longer than a limit for each of the steps that it recorded. -/
structure EndedInTime (limitMs : Nat) (begun ended : Instant) (row : ExecutionRow) (log : List StepRow) : Prop where
  status : row.status = ExecutionStatus.completed.name ∨ row.status = ExecutionStatus.failed.name
  duration : ∃ ms, row.durationMs = some ms ∧ 0 ≤ ms ∧ ms ≤ limitMs * log.length
  elapsed : begun ≤ ended ∧ ended ≤ begun + limitMs * log.length

theorem Process.run_now_le {env : Environment} (faultless : env.Faultless) {α : Type} (p : Process α)
    (w : World MemoryStore) : w.now ≤ (p.run env w).2.now := by
  have answered (r : Request) (w : World MemoryStore) : w.now ≤ (World.answer env r w).2.now := by
    obtain ⟨b, ms, w', told⟩ := faultless.refuses.answered r w
    rw [told]
    exact Nat.le_of_eq (World.answer_takes faultless told).2.symm
  exact p.run_follows (R := fun w w' => w.now ≤ w'.now) (fun _ => Nat.le_refl _) Nat.le_trans answered
    (fun _ _ => Nat.le_add_right ..) w

/-- Every run ends in bounded time.  Whatever the workflow and its settings, the payload, the limit of steps and the
hosts, even those that never answer, a run with the usual limits succeeds as a request, and its execution ends, having
taken no more than five minutes for each step that it recorded. -/
theorem run_ends_in_time (maxSteps : Nat) {env : Environment} {w : World MemoryStore} {base : ExecutionRow}
    {text : String} (there : w.store.executions.find? base.id = some base)
    (pending : base.status = ExecutionStatus.pending.name) (faultless : env.Faultless)
    (named : Executor.readId text = .ok base.id) :
    let ran := ((Executor.standard maxSteps).runNamed text).run.run env w
    ∃ summary row log, ran.1 = some (.ok summary) ∧
      ran.2.store.Holds base.id (some row) (w.store.stepsOf base.id ++ log) ∧
      EndedInTime 300000 w.now ran.2.now row log ∧
      row.durationMs = some summary.durationMs ∧ log.length = summary.stepsExecuted := by
  intro ran
  obtain ⟨r, result, done⟩ := (Executor.standard maxSteps).run_accomplished faultless there pending named
  cases done with
  | @intro e clock now visits outcome rows read concluded logged holds =>
      have steps : outcome.stepsExecuted = rows.length := concluded.stepsExecuted_eq.trans logged.length_eq
      have judged := Executor.runAttached_timed (Executor.standard_paced maxSteps) (t := w.now) base.id
      have bounds := fun summary => judged.run (a := .ok summary) faultless
      rw [← Executor.runNamed_run faultless.refuses named] at bounds
      obtain ⟨bounded, lasted⟩ := bounds _ result
      have later : w.now ≤ ran.2.now := Process.run_now_le faultless _ w
      have inTime : ran.2.now ≤ w.now + 300000 * rows.length := by
        rw [← steps]
        exact bounded
      have recorded : (clock.finish outcome.stepFailed outcome.setupError now).durationMs = ↑(ran.2.now - w.now) :=
        lasted
      refine ⟨_, _, rows, result, holds, ?_, rfl, steps.symm⟩
      exact {
        status := by
          rcases ExecutionStatus.ofOutcome_cases outcome.stepFailed outcome.setupError.isSome with completed | failed
          · exact .inl (congrArg ExecutionStatus.name completed)
          · exact .inr (congrArg ExecutionStatus.name failed)
        duration := by
          refine ⟨_, rfl, Int.natCast_nonneg _, ?_⟩
          rw [recorded]
          exact_mod_cast Nat.sub_le_iff_le_add'.mpr inTime
        elapsed := ⟨later, inTime⟩ }

/-- A workflow that goes round in a circle and pauses each time for longer than anybody could wait. -/
def loopRows : Rows where
  workflow := ⟨.nil, "loop", 0⟩
  nodes := [⟨"start", .nil, "trigger", none, none, .null⟩,
    ⟨"rest", .nil, "delay", none, none, .object [("delay", .text "1e300")]⟩]
  edges := [⟨"e0", .nil, "start", "rest", none⟩, ⟨"e1", .nil, "rest", "rest", none⟩]

/-- A store that holds that workflow, and a pending execution of it. -/
def loopStore : MemoryStore :=
  { MemoryStore.empty.putWorkflow loopRows with
    executions := Table.empty.put messageExecution.id messageExecution }

theorem loopStore_holds : loopStore.executions.find? messageExecution.id = some messageExecution :=
  Table.find?_put_self ..

theorem run_ends_in_time_loop :
    let ran := ((Executor.standard 3).runNamed messageExecution.id.render).run.run .calm (.start loopStore)
    ∃ summary row log, ran.1 = some (.ok summary) ∧ ran.2.store.Holds messageExecution.id (some row) log ∧
      EndedInTime 300000 0 ran.2.now row log ∧
      row.durationMs = some summary.durationMs ∧ log.length = summary.stepsExecuted :=
  run_ends_in_time 3 loopStore_holds rfl Environment.calm_faultless readId_message

end WorkflowEngine
