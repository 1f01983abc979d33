/-
Module: WorkflowEngine.Proofs.LostAcknowledgement
Layer: Proofs
Purpose: What becomes of a run when the store fails, or seems to fail, at the end of it.  An attempt at ending the
  execution may be written although it is reported as a failure.  Then the record is the one of a run without
  failures, but a later attempt finds the execution ended and the run is an error: it is none exactly if the first
  attempt that is written is acknowledged (`ended_run`, `ended_execution_reported_as_error`).
Imports: WorkflowEngine.Proofs.Running, WorkflowEngine.Proofs.StoreFaults
Trusted boundary: none
Main exports: Process.run_avoids, Environment.FailsAtEnd, Environment.acknowledged?, Finalized,
  finalize_run, EndsOfRun, ended_run, ended_execution_reported_as_error
-/
import WorkflowEngine.Proofs.Running
import WorkflowEngine.Proofs.StoreFaults

namespace WorkflowEngine

/-! ## Failures at the end -/

/-- Only attempts at ending an execution fail, or are reported as failures, and never for the reason that there is no
such row. -/
structure Environment.FailsAtEnd (env : Environment) : Prop where
  elsewhere : ∀ m, m ≠ .finishExecution → ∀ n, env.faults m n = none
  transient : ∀ n effect, env.faults .finishExecution n = some effect →
    ∃ f, f ≠ .notFound ∧ (effect = .refuse f ∨ effect = .unacknowledged f)

/-- Whether the first of some attempts at ending an execution that reaches the store is acknowledged; none if no
attempt reaches it.  Attempts are counted from `n`. -/
def Environment.acknowledged? (env : Environment) : (attempts n : Nat) → Option Bool
  | 0, _ => none
  | attempts + 1, n =>
      match env.faults .finishExecution n with
      | some (.refuse _) => env.acknowledged? attempts (n + 1)
      | some _ => some false
      | none => some true

theorem Environment.withoutFaults_failsAtEnd (env : Environment) : env.withoutFaults.FailsAtEnd where
  elsewhere _ _ _ := rfl
  transient n effect fault := by cases fault

variable {env : Environment}

theorem World.answer_elsewhere (fails : env.FailsAtEnd) {r : Request} (other : r.method? ≠ some .finishExecution)
    (w : World MemoryStore) : World.answer env r w = World.answer env.withoutFaults r w := by
  cases r with
  | store call =>
      have quiet : env.faults call.method (w.callCount call.method) = none := by
        apply fails.elsewhere
        simpa [Request.method?] using other
      simp only [World.answer, World.call, quiet, Environment.withoutFaults]
      rfl
  | clock | freshId | sleep | exchange | deliver | note => rfl

/-- Where no call fails, a call is noted and nothing else is counted. -/
theorem World.callCount_answer {m : StoreMethod} {r : Request} (other : r.method? ≠ some m) (w : World MemoryStore) :
    (World.answer env.withoutFaults r w).2.callCount m = w.callCount m := by
  cases r with
  | store call =>
      have differs : call.method ≠ m := by simpa [Request.method?] using other
      change (call.method :: w.calls).count m = w.calls.count m
      rw [List.count_cons_of_ne differs]
  | deliver mail =>
      simp only [World.answer]
      split <;> rfl
  | clock | freshId | sleep | exchange | note => rfl

/-- A process that makes no attempt at ending an execution does not see the failures, and leaves the count of the
attempts as it is. -/
theorem Process.run_avoids {α : Type} (fails : env.FailsAtEnd) {p : Process α} (avoids : p.Avoids .finishExecution)
    (w : World MemoryStore) : p.run env w = p.run env.withoutFaults w ∧
      (p.run env w).2.callCount .finishExecution = w.callCount .finishExecution := by
  induction p generalizing w with
  | done a => exact ⟨rfl, rfl⟩
  | ask r next ih =>
      have same := World.answer_elsewhere fails avoids.1 w
      have count : (World.answer env.withoutFaults r w).2.callCount .finishExecution = _ :=
        World.callCount_answer avoids.1 w
      simp only [Process.run, same]
      cases answered : World.answer env.withoutFaults r w with
      | mk told v =>
          rw [answered] at count
          rcases told with _ | ⟨a, ms⟩
          · exact ⟨rfl, count⟩
          · obtain ⟨run, counted⟩ := ih a (avoids.2 a) (v.later ms)
            exact ⟨run, counted.trans count⟩

/-! ## Attempts at the end -/

namespace MemoryStore

variable {s : MemoryStore} {id : Uuid} {stamp : Stamp} {f : Finish}

/-- The store with another row for an execution. -/
def withRow (s : MemoryStore) (id : Uuid) (row : ExecutionRow) : MemoryStore :=
  { s with executions := s.executions.put id row }

/-- An execution is not running, or not there. -/
def Closed (s : MemoryStore) (id : Uuid) : Prop :=
  ∀ row, s.executions.find? id = some row → row.status ≠ ExecutionStatus.running.name

theorem answer_finish_closed (closed : s.Closed id) :
    answer stamp (.finishExecution id f) s = (.error .notFound, s) := by
  simp only [answer]
  cases found : s.executions.find? id with
  | none => rfl
  | some row =>
      have late : row.status ≠ "running" := closed row found
      simp only [late, if_false]

theorem answer_finish_running {row : ExecutionRow} (found : s.executions.find? id = some row)
    (running : row.status = ExecutionStatus.running.name) :
    answer stamp (.finishExecution id f) s = (.ok (), s.withRow id (row.finished f)) := by
  have status : row.status = "running" := running
  simp only [answer, found, status, if_true]
  rfl

theorem withRow_closed {row : ExecutionRow} (ended : row.status ≠ ExecutionStatus.running.name) :
    (s.withRow id row).Closed id := by
  intro other found
  rw [withRow, Table.find?_put_self] at found
  cases found
  exact ended

end MemoryStore

/-- The world after a call to end an execution that reached the store. -/
def World.afterFinish (w : World MemoryStore) (s : MemoryStore) : World MemoryStore :=
  { w with calls := .finishExecution :: w.calls, store := s }

variable {id : Uuid} {clock : RunClock} {stepFailed : Bool} {error : Option String} {w : World MemoryStore}

/-- One attempt at ending an execution. -/
theorem finish_run (clock : RunClock) (stepFailed : Bool) (error : Option String) (fails : env.FailsAtEnd)
    {reply : Except StoreFault Unit} {s : MemoryStore}
    (answered : MemoryStore.answer ⟨env.ids w.issued, w.now⟩
      (.finishExecution id (clock.finish stepFailed error w.now)) w.store = (reply, s)) :
    (finish id clock stepFailed error).run.run env w =
      match env.faults .finishExecution (w.callCount .finishExecution) with
      | some (.refuse f) => (some (.error (.store f)), w.afterFinish w.store)
      | some (.unacknowledged f) => (some (.error (.store f)), w.afterFinish s)
      | _ => (some (match reply with
          | .ok _ => .ok (clock.ended stepFailed error w.now)
          | .error f => .error (.store f)), w.afterFinish s) := by
  have asked : (Task.request .clock).run.run env w = (some (.ok w.now), w) := rfl
  rw [finish, Task.run_bind_of_ok asked]
  have reached : World.reach env (.finishExecution id (clock.finish stepFailed error w.now))
      { w with calls := .finishExecution :: w.calls } = (reply, w.afterFinish s) := by
    simp only [World.reach, Store.answer, answered]
    rfl
  cases effect : env.faults .finishExecution (w.callCount .finishExecution) with
  | none =>
      have replied : World.call env (.finishExecution id (clock.finish stepFailed error w.now)) w
          = (some reply, w.afterFinish s) := by
        simp only [World.call, StoreCall.method, effect, reached]
      cases reply with
      | ok _ => exact Task.run_bind_of_ok (Task.run_call replied)
      | error f => exact Task.run_bind_of_error (Task.run_call replied)
  | some e =>
      obtain ⟨f, -, rfl | rfl⟩ := fails.transient _ e effect
      · have replied : World.call env (.finishExecution id (clock.finish stepFailed error w.now)) w
            = (some (.error f), w.afterFinish w.store) := by
          simp only [World.call, StoreCall.method, effect]
          rfl
        exact Task.run_bind_of_error (Task.run_call replied)
      · have replied : World.call env (.finishExecution id (clock.finish stepFailed error w.now)) w
            = (some (.error f), w.afterFinish s) := by
          simp only [World.call, StoreCall.method, effect, reached]
        exact Task.run_bind_of_error (Task.run_call replied)

/-- What attempts at ending an execution come to, in the store as it was and as told before the first that reached
it. -/
inductive Finalized (id : Uuid) (clock : RunClock) (stepFailed : Bool) (error : Option String) (row : ExecutionRow)
    (s : MemoryStore) : Option Bool → Except EngineError FinishedRun → MemoryStore → Prop where
  | unreached {f : StoreFault} : Finalized id clock stepFailed error row s none (.error (.store f)) s
  | acknowledged {now : Instant} :
      Finalized id clock stepFailed error row s (some true) (.ok (clock.ended stepFailed error now))
        (s.withRow id (row.finished (clock.finish stepFailed error now)))
  | lost {now : Instant} {f : StoreFault} :
      Finalized id clock stepFailed error row s (some false) (.error (.store f))
        (s.withRow id (row.finished (clock.finish stepFailed error now)))

theorem callCount_afterFinish (w : World MemoryStore) (s : MemoryStore) :
    (w.afterFinish s).callCount .finishExecution = w.callCount .finishExecution + 1 := List.count_cons_self

theorem RunClock.finish_not_running (clock : RunClock) (stepFailed : Bool) (error : Option String) (now : Instant) :
    (clock.finish stepFailed error now).status ≠ ExecutionStatus.running.name := by
  intro same
  have status := ExecutionStatus.name_inj.mp same
  unfold ExecutionStatus.ofOutcome at status
  split at status <;> cases status

section Attempts

variable {w' : World MemoryStore} {pauses : List Nat}

/-- An attempt that succeeds, or finds nothing to end, is the last. -/
theorem finalize_run_last {r : Except EngineError FinishedRun} (last : ∀ e, r = .error e → e = .store .notFound)
    (h : (finish id clock stepFailed error).run.run env w = (some r, w')) :
    (finalize id clock stepFailed error pauses).run.run env w = (some r, w') := by
  cases pauses with
  | nil => exact h
  | cons pause pauses =>
      cases r with
      | ok finished => exact Task.run_tryCatch_of_ok h
      | error e =>
          cases last e rfl
          exact Task.run_tryCatch_of_error h

/-- After an attempt that failed comes a pause, and the next attempt. -/
theorem finalize_run_again {pause : Nat} {f : StoreFault} (fault : f ≠ .notFound)
    (h : (finish id clock stepFailed error).run.run env w = (some (.error (.store f)), w')) :
    ∃ ms, (finalize id clock stepFailed error (pause :: pauses)).run.run env w =
      (finalize id clock stepFailed error pauses).run.run env (w'.later ms) := by
  have other : EngineError.store f ≠ .store .notFound := by simpa using fault
  rw [finalize, Task.run_tryCatch_of_error h, if_neg other]
  exact ⟨_, Task.run_bind_of_ok (Task.run_sleep _)⟩

/-- Attempts at ending an execution that is not running are in vain, and leave the store as it is. -/
theorem finalize_run_closed (clock : RunClock) (stepFailed : Bool) (error : Option String) (pauses : List Nat)
    (fails : env.FailsAtEnd) (closed : w.store.Closed id) :
    ∃ f w', (finalize id clock stepFailed error pauses).run.run env w = (some (.error (.store f)), w') ∧
      w'.store = w.store := by
  have attempt (w : World MemoryStore) (closed : w.store.Closed id) :
      ∃ f, (finish id clock stepFailed error).run.run env w = (some (.error (.store f)), w.afterFinish w.store) := by
    have ran := finish_run clock stepFailed error fails
      (MemoryStore.answer_finish_closed closed)
    cases effect : env.faults .finishExecution (w.callCount .finishExecution) with
    | none =>
        rw [effect] at ran
        exact ⟨_, ran⟩
    | some e =>
        obtain ⟨f, -, rfl | rfl⟩ := fails.transient _ e effect <;> rw [effect] at ran <;> exact ⟨f, ran⟩
  induction pauses generalizing w with
  | nil =>
      obtain ⟨f, ran⟩ := attempt w closed
      exact ⟨f, _, ran, rfl⟩
  | cons pause pauses ih =>
      obtain ⟨f, ran⟩ := attempt w closed
      by_cases missing : f = .notFound
      · refine ⟨f, _, finalize_run_last ?_ ran, rfl⟩
        rintro _ ⟨⟩
        rw [missing]
      · obtain ⟨ms, again⟩ := finalize_run_again missing ran
        rw [again]
        exact ih closed

/-- The first attempt that reaches the store ends the execution, and no attempt after it finds anything to end. -/
theorem finalize_run (clock : RunClock) (stepFailed : Bool) (error : Option String) (pauses : List Nat)
    (fails : env.FailsAtEnd) {row : ExecutionRow} (found : w.store.executions.find? id = some row)
    (running : row.status = ExecutionStatus.running.name) :
    ∃ r w', (finalize id clock stepFailed error pauses).run.run env w = (some r, w') ∧
      Finalized id clock stepFailed error row w.store
        (env.acknowledged? (pauses.length + 1) (w.callCount .finishExecution)) r w'.store := by
  induction pauses generalizing w with
  | nil =>
      have attempt := finish_run clock stepFailed error fails
        (MemoryStore.answer_finish_running found running)
      simp only [Environment.acknowledged?]
      cases effect : env.faults .finishExecution (w.callCount .finishExecution) with
      | none =>
          rw [effect] at attempt
          exact ⟨_, _, attempt, .acknowledged⟩
      | some e =>
          obtain ⟨f, -, rfl | rfl⟩ := fails.transient _ e effect
          · rw [effect] at attempt
            exact ⟨_, _, attempt, .unreached⟩
          · rw [effect] at attempt
            exact ⟨_, _, attempt, .lost⟩
  | cons pause pauses ih =>
      have attempt := finish_run clock stepFailed error fails
        (MemoryStore.answer_finish_running found running)
      rw [Environment.acknowledged?]
      cases effect : env.faults .finishExecution (w.callCount .finishExecution) with
      | none =>
          rw [effect] at attempt
          exact ⟨_, _, finalize_run_last (by simp) attempt, .acknowledged⟩
      | some e =>
          obtain ⟨f, fault, rfl | rfl⟩ := fails.transient _ e effect
          · rw [effect] at attempt
            obtain ⟨ms, again⟩ := finalize_run_again fault attempt
            rw [again]
            simp only [List.length_cons, ← callCount_afterFinish w w.store]
            exact ih found
          · rw [effect] at attempt
            obtain ⟨ms, again⟩ := finalize_run_again fault attempt
            rw [again]
            have closed : (w.store.withRow id (row.finished (clock.finish stepFailed error w.now))).Closed id := by
              apply MemoryStore.withRow_closed
              exact clock.finish_not_running stepFailed error w.now
            obtain ⟨g, w', vain, store⟩ := finalize_run_closed clock stepFailed error pauses fails
              (w := (w.afterFinish _).later _) closed
            refine ⟨_, _, vain, ?_⟩
            rw [store]
            exact .lost

end Attempts

/-! ## Runs -/

/-- The last part of a run: its execution is ended, and the summary is made. -/
def Traversal.conclude (outcome : Traversal) (e : Execution) (clock : RunClock) : Task Summary :=
  outcome.summary e.id <$> finalize e.id clock outcome.stepFailed outcome.setupError finalizePauses

/-- A run comes to its last part in some world: it loads and starts its execution, and walks the graph. -/
inductive Arrives (env : Environment) (x : Executor) (id : Uuid) (w : World MemoryStore) :
    Execution → RunClock → Traversal → World MemoryStore → Prop where
  | intro {e : Execution} {clock : RunClock} {outcome : Traversal} {loaded started driven : World MemoryStore}
      (load : (load id).run.run env w = (some (.ok e), loaded))
      (start : (start e).run.run env loaded = (some (.ok clock), started))
      (drive : (x.drive e).run.run env started = (some (.ok outcome), driven)) :
      Arrives env x id w e clock outcome driven

namespace Arrives

variable {x : Executor} {e : Execution} {outcome : Traversal} {v : World MemoryStore}

theorem run_eq (h : Arrives env x id w e clock outcome v) :
    (x.runAttached id).run.run env w = (outcome.conclude e clock).run.run env v := by
  cases h with
  | intro load start drive =>
      rw [Executor.runAttached, Task.run_bind_of_ok load, Task.run_bind_of_ok start, Executor.runStarted,
        Task.run_bind_of_ok (Task.run_tryCatch_of_ok drive)]
      rfl

/-- A run that succeeds came to its last part. -/
theorem of_ok {summary : Summary} (ran : ((x.runAttached id).run.run env w).1 = some (.ok summary)) :
    ∃ e clock outcome v, Arrives env x id w e clock outcome v := by
  obtain ⟨e, loaded, load⟩ := Task.ok_of_run_bind ran
  rw [Executor.runAttached, Task.run_bind_of_ok load] at ran
  obtain ⟨clock, started, start⟩ := Task.ok_of_run_bind ran
  rw [Task.run_bind_of_ok start] at ran
  obtain ⟨outcome, driven, caught⟩ := Task.ok_of_run_bind ran
  refine ⟨e, clock, outcome, driven, .intro load start (Task.ok_of_run_tryCatch (fun err v => ?_) caught)⟩
  -- What is done about a failure of the store never makes a walk succeed.
  intro a told
  obtain ⟨_, w', aborted⟩ := Task.ok_of_run_bind told
  rw [Task.run_bind_of_ok aborted] at told
  cases told

/-- Failures at the end make no difference before it. -/
theorem of_withoutFaults (fails : env.FailsAtEnd) (h : Arrives env.withoutFaults x id w e clock outcome v) :
    Arrives env x id w e clock outcome v ∧ v.callCount .finishExecution = w.callCount .finishExecution := by
  cases h with
  | @intro loaded started _ load start drive =>
      obtain ⟨loadSame, loadCount⟩ := Process.run_avoids fails (load_avoids (by decide) id) w
      obtain ⟨startSame, startCount⟩ := Process.run_avoids fails (start_avoids (by decide) e) loaded
      obtain ⟨driveSame, driveCount⟩ := Process.run_avoids fails (x.drive_avoids e) started
      rw [load] at loadSame
      rw [start] at startSame
      rw [drive] at driveSame
      rw [loadSame] at loadCount
      rw [startSame] at startCount
      rw [driveSame] at driveCount
      exact ⟨.intro loadSame startSame driveSame, driveCount.trans (startCount.trans loadCount)⟩

end Arrives

/-- What a run comes to when only attempts at its end fail, next to the same run without failures. -/
structure EndsOfRun (id : Uuid) (acknowledged : Option Bool) (result : Except EngineError Summary) (s : MemoryStore)
    (summary : Summary) (clean : MemoryStore) : Prop where
  log : s.stepsOf id = clean.stepsOf id
  /-- No attempt reached the store: the execution is still running. -/
  unreached : acknowledged = none → (∃ f, result = .error (.store f)) ∧
    ∃ row, s.executions.find? id = some row ∧ row.status = ExecutionStatus.running.name
  /-- Some attempt reached the store: the record is the right one. -/
  reached : acknowledged ≠ none → SameRecords id s clean
  /-- The first attempt that reached the store was acknowledged. -/
  told : acknowledged = some true → ∃ told row, result = .ok told ∧ told.timeless = summary.timeless ∧
    s.executions.find? id = some row ∧ (told.success = true ↔ row.status = ExecutionStatus.completed.name)
  /-- The first attempt that reached the store was reported as a failure. -/
  lost : acknowledged = some false → ∃ f, result = .error (.store f)

section Ends

variable {x : Executor} {base : ExecutionRow}

theorem Task.run_map {σ α β : Type} [Store σ] {w w' : World σ} {t : Task α} {f : α → β} {r : Except EngineError α}
    (h : t.run.run env w = (some r, w')) : (f <$> t).run.run env w = (some (r.map f), w') := by
  change (t.run >>= _).run env w = _
  rw [Process.run_bind, h]
  cases r <;> rfl

/-- What is written at the end of an execution differs in its times alone. -/
theorem sameRecords_withRow (id : Uuid) (clock : RunClock) (stepFailed : Bool) (error : Option String)
    (row : ExecutionRow) (s : MemoryStore) (now now' : Instant) :
    SameRecords id (s.withRow id (row.finished (clock.finish stepFailed error now)))
      (s.withRow id (row.finished (clock.finish stepFailed error now'))) := by
  constructor
  · rw [MemoryStore.withRow, MemoryStore.withRow, Table.find?_put_self, Table.find?_put_self]
    rfl
  · rfl

/-- The last part of a run, with failures at the end and without. -/
theorem EndsOfRun.of_finalized {outcome : Traversal} {row : ExecutionRow} {s t t' : MemoryStore}
    {acknowledged : Option Bool} {r r' : Except EngineError FinishedRun} {summary : Summary}
    (found : s.executions.find? id = some row) (running : row.status = ExecutionStatus.running.name)
    (h : Finalized id clock outcome.stepFailed outcome.setupError row s acknowledged r t)
    (k : Finalized id clock outcome.stepFailed outcome.setupError row s (some true) r' t')
    (clean : r'.map (outcome.summary id) = .ok summary) :
    EndsOfRun id acknowledged (r.map (outcome.summary id)) t summary t' := by
  cases k with
  | @acknowledged last =>
      cases clean
      cases h with
      | @unreached f =>
          exact {
            log := rfl
            unreached := fun _ => ⟨⟨f, rfl⟩, row, found, running⟩
            reached := fun some => absurd rfl some
            told := by rintro ⟨⟩
            lost := by rintro ⟨⟩ }
      | @acknowledged now =>
          refine {
            log := rfl
            unreached := by rintro ⟨⟩
            reached := fun _ => sameRecords_withRow ..
            told := fun _ => ⟨_, _, rfl, rfl, Table.find?_put_self .., ?_⟩
            lost := by rintro ⟨⟩ }
          simp only [Traversal.summary, RunClock.ended, ExecutionRow.finished, RunClock.finish,
            ExecutionStatus.name_inj]
          exact decide_eq_true_iff
      | @lost now f =>
          exact {
            log := rfl
            unreached := by rintro ⟨⟩
            reached := fun _ => sameRecords_withRow ..
            told := by rintro ⟨⟩
            lost := fun _ => ⟨f, rfl⟩ }

/-- Where only attempts at the end of a run fail, the run leaves the steps of the run without failures.  If an
attempt reaches the store, it leaves the record of that run as well; but it tells so only if the first attempt that
does is acknowledged. -/
theorem ended_run (x : Executor) (fails : env.FailsAtEnd)
    (there : w.store.executions.find? base.id = some base) (pending : base.status = ExecutionStatus.pending.name)
    {text : String} (named : Executor.readId text = .ok base.id) :
    let run := (x.runNamed text).run
    ∃ result summary, (run.run env w).1 = some result ∧ (run.run env.withoutFaults w).1 = some (.ok summary) ∧
      EndsOfRun base.id (env.acknowledged? 3 (w.callCount .finishExecution)) result (run.run env w).2.store summary
        (run.run env.withoutFaults w).2.store := by
  intro run
  obtain ⟨r, ended, accomplished⟩ := x.run_accomplished env.withoutFaults_faultless there pending named
  have own : ∀ summary, r = .ok summary → summary.executionId = base.id := by
    rintro summary rfl
    cases accomplished
    rfl
  obtain ⟨summary, rfl⟩ := accomplished.eq_ok
  rw [Executor.runNamed_run env.withoutFaults_faultless.refuses named] at ended
  obtain ⟨e, clock, outcome, v, arrives⟩ := Arrives.of_ok ended
  obtain ⟨arrivesToo, count⟩ := arrives.of_withoutFaults fails
  rw [arrives.run_eq] at ended
  by_cases closed : v.store.Closed e.id
  · -- The run without failures could not have ended its execution.
    obtain ⟨f, v', vain, -⟩ := finalize_run_closed clock outcome.stepFailed outcome.setupError finalizePauses
      env.withoutFaults_failsAtEnd closed
    rw [Traversal.conclude, Task.run_map vain] at ended
    cases ended
  · obtain ⟨row, found, running⟩ : ∃ row, v.store.executions.find? e.id = some row ∧
        row.status = ExecutionStatus.running.name := by
      simpa [MemoryStore.Closed] using closed
    obtain ⟨r', v', clean, cleanly⟩ := finalize_run clock outcome.stepFailed outcome.setupError finalizePauses
      env.withoutFaults_failsAtEnd found running
    obtain ⟨r, v'', dirty, finally_⟩ := finalize_run clock outcome.stepFailed outcome.setupError finalizePauses fails found
      running
    have cleanRun := Executor.runNamed_run_of_some named (arrives.run_eq.trans (Task.run_map clean))
    have dirtyRun := Executor.runNamed_run_of_some named (arrivesToo.run_eq.trans (Task.run_map dirty))
    rw [Traversal.conclude, Task.run_map clean] at ended
    have told : r'.map (outcome.summary e.id) = .ok summary := Option.some.inj ended
    have id_eq : e.id = base.id := by
      rw [← own summary rfl]
      cases r' <;> cases told
      rfl
    refine ⟨_, summary, by rw [dirtyRun], by rw [cleanRun, told], ?_⟩
    rw [dirtyRun, cleanRun, ← id_eq, ← count]
    exact .of_finalized found running finally_ cleanly told

/-- An environment in which the first acknowledgement of an end is lost. -/
def Environment.forgetsFirstEnd : Environment :=
  { Environment.calm with
    faults := fun m n =>
      if m = .finishExecution ∧ n = 0 then some (.unacknowledged (.database .waitedTooLong)) else none }

theorem Environment.forgetsFirstEnd_failsAtEnd : Environment.forgetsFirstEnd.FailsAtEnd where
  elsewhere m other n := by simp [forgetsFirstEnd, other]
  transient n effect fault := by
    simp only [forgetsFirstEnd, true_and, Option.ite_none_right_eq_some, Option.some.injEq] at fault
    exact ⟨.database .waitedTooLong, by simp, .inr fault.2.symm⟩

/-- A run is reported as an error although one of its own attempts has recorded that it completed: the next attempt
finds no execution that is running. -/
theorem ended_execution_reported_as_error :
    let ran := (Executor.runNamed ⟨.builtins 1000 1000, 0, 0⟩ messageExecution.id.render).run.run .forgetsFirstEnd
      (.start messageStore)
    ran.1 = some (.error (.store .notFound)) ∧
      (ran.2.store.executions.find? messageExecution.id).map ExecutionRow.status =
        some ExecutionStatus.completed.name := by
  intro ran
  simp only [ran, Executor.runNamed_run_eq _ readId_message]
  constructor
  · decide +kernel
  · decide +kernel

theorem ended_run_forgotten :
    let ran := (Executor.runNamed ⟨.builtins 1000 1000, 5, 0⟩ messageExecution.id.render).run.run .forgetsFirstEnd
      (.start messageStore)
    let clean := (Executor.runNamed ⟨.builtins 1000 1000, 5, 0⟩ messageExecution.id.render).run.run
      Environment.forgetsFirstEnd.withoutFaults (.start messageStore)
    (∃ f, ran.1 = some (.error (.store f))) ∧ SameRecords messageExecution.id ran.2.store clean.2.store := by
  intro ran clean
  obtain ⟨result, summary, ended, -, ends⟩ := ended_run ⟨.builtins 1000 1000, 5, 0⟩
    Environment.forgetsFirstEnd_failsAtEnd (w := .start messageStore) messageStore_holds rfl readId_message
  have lost : Environment.forgetsFirstEnd.acknowledged? 3
      ((World.start messageStore).callCount .finishExecution) = some false := rfl
  obtain ⟨f, rfl⟩ := ends.lost lost
  refine ⟨⟨f, ended⟩, ends.reached ?_⟩
  rw [lost]
  exact nofun

end Ends

end WorkflowEngine
