/-
Module: WorkflowEngine.Proofs.Running
Layer: Proofs
Purpose: Runs of composed processes.  What a sequence of tasks comes to is put together from what each of them comes
  to (`Task.run_bind_of_ok`), and which kinds of calls a process never makes is told from its parts
  (`Process.Avoids`).
Imports: WorkflowEngine.Proofs.Conduct, WorkflowEngine.World
Trusted boundary: none
Main exports: Process.Avoids, Process.run_bind, Task.run_bind_of_ok, Task.run_tryCatch_of_error, Task.run_call
-/
import WorkflowEngine.Proofs.Conduct
import WorkflowEngine.World

namespace WorkflowEngine

/-! ## Calls that a process avoids -/

namespace Process

variable {α β : Type} {m : StoreMethod} {p : Process α}

/-- A process makes no call of some kind. -/
def Avoids (m : StoreMethod) : Process α → Prop
  | .done _ => True
  | .ask r next => r.method? ≠ some m ∧ ∀ a, Avoids m (next a)

theorem Avoids.bind {f : α → Process β} (h : p.Avoids m) (hf : ∀ a, (f a).Avoids m) : (p >>= f).Avoids m := by
  induction p with
  | done a => exact hf a
  | ask r next ih => exact ⟨h.1, fun a => ih a (h.2 a)⟩

theorem Aside.avoids (h : p.Aside) : p.Avoids m := by
  induction p with
  | done a => trivial
  | ask r next ih =>
      refine ⟨?_, fun a => ih a (h.2 a)⟩
      rw [h.1]
      simp

end Process

namespace Task

variable {α β : Type} {m : StoreMethod}

theorem avoids_bind {t : Task α} {f : α → Task β} (h : t.run.Avoids m) (hf : ∀ a, (f a).run.Avoids m) :
    (t >>= f).run.Avoids m := by
  apply Process.Avoids.bind h
  intro r
  cases r with
  | ok a => exact hf a
  | error e => trivial

theorem avoids_tryCatch {t : Task α} {f : EngineError → Task α} (h : t.run.Avoids m)
    (hf : ∀ e, (f e).run.Avoids m) : (tryCatch t f).run.Avoids m := by
  apply Process.Avoids.bind h
  intro r
  cases r with
  | ok a => trivial
  | error e => exact hf e

theorem avoids_request {r : Request} (other : r.method? ≠ some m) : (request r).run.Avoids m :=
  ⟨other, fun _ => trivial⟩

theorem avoids_ask {c : StoreCall} (other : c.method ≠ m) : (ask c).run.Avoids m :=
  avoids_request (by simpa [Request.method?] using other)

theorem avoids_call {c : StoreCall} (other : c.method ≠ m) : (call c).run.Avoids m := by
  refine avoids_bind (avoids_ask other) fun reply => ?_
  cases reply <;> trivial

theorem avoids_lift {p : Process α} (aside : p.Aside) : (ExceptT.lift p : Task α).run.Avoids m :=
  aside.avoids.bind fun _ => trivial

theorem avoids_ofRecord (r : Except String α) : (ofRecord r).run.Avoids m := by
  cases r <;> trivial

end Task

section Avoiding

variable {m : StoreMethod} {x : Executor} {e : Execution}

theorem load_avoids (other : .getExecution ≠ m) (id : Uuid) : (load id).run.Avoids m := by
  refine Task.avoids_bind (Task.avoids_ask other) fun reply => ?_
  rcases reply with f | row
  · cases f <;> trivial
  · exact Task.avoids_ofRecord _

theorem start_avoids (other : .markRunning ≠ m) (e : Execution) : (start e).run.Avoids m := by
  unfold start
  split
  · trivial
  · refine Task.avoids_bind (Task.avoids_request (by simp [Request.method?])) fun startedAt => ?_
    refine Task.avoids_bind (Task.avoids_call other) fun won => ?_
    cases won with
    | false => trivial
    | true => exact Task.avoids_bind (Task.avoids_request (by simp [Request.method?])) fun _ => trivial

namespace Executor

theorem recordVisit_avoids (other : .insertStep ≠ m) (node : Node) (context : Context) :
    (x.recordVisit e node context).run.Avoids m := by
  refine Task.avoids_bind (Task.avoids_request (by simp [Request.method?])) fun startedAt => ?_
  refine Task.avoids_bind (Task.avoids_lift (visit_aside node context)) fun result => ?_
  refine Task.avoids_bind (Task.avoids_request (by simp [Request.method?])) fun completedAt => ?_
  refine Task.avoids_bind (Task.avoids_request (by simp [Request.method?])) fun id => ?_
  exact Task.avoids_bind (Task.avoids_call other) fun _ => trivial

theorem walk_avoids (other : .insertStep ≠ m) (g : Graph) (left taken : Nat) (context : Context)
    (node : Option Node) : (x.walk e g left taken context node).run.Avoids m := by
  induction left generalizing taken context node with
  | zero => cases node <;> trivial
  | succ left ih =>
      cases node with
      | none => trivial
      | some node =>
          refine Task.avoids_bind (recordVisit_avoids other node context) fun result => ?_
          cases result with
          | error message => trivial
          | ok output =>
              simp only
              split
              · trivial
              · exact ih ..

theorem drive_avoids (e : Execution) : (x.drive e).run.Avoids .finishExecution := by
  refine Task.avoids_bind (Task.avoids_request (by simp [Request.method?, StoreCall.method])) fun reply => ?_
  rcases reply with f | row
  · cases f <;> trivial
  · refine Task.avoids_bind (Task.avoids_call (by simp [StoreCall.method])) fun nodes => ?_
    refine Task.avoids_bind (Task.avoids_call (by simp [StoreCall.method])) fun edges => ?_
    simp only
    split
    · trivial
    · exact walk_avoids (by decide) ..

end Executor

theorem finish_avoids (other : .finishExecution ≠ m) (id : Uuid) (clock : RunClock) (stepFailed : Bool)
    (error : Option String) : (finish id clock stepFailed error).run.Avoids m := by
  refine Task.avoids_bind (Task.avoids_request (by simp [Request.method?])) fun now => ?_
  exact Task.avoids_bind (Task.avoids_call other) fun _ => trivial

theorem finalize_avoids (other : .finishExecution ≠ m) (id : Uuid) (clock : RunClock) (stepFailed : Bool)
    (error : Option String) (pauses : List Nat) : (finalize id clock stepFailed error pauses).run.Avoids m := by
  induction pauses with
  | nil => exact finish_avoids other ..
  | cons pause pauses ih =>
      refine Task.avoids_tryCatch (finish_avoids other ..) fun e => ?_
      split
      · trivial
      · exact Task.avoids_bind (Task.avoids_request (by simp [Request.method?])) fun _ => ih

end Avoiding

/-! ## Runs of composed processes -/

section Running

variable {σ α β : Type} [Store σ] {env : Environment} {w w' : World σ}

theorem Process.run_bind (p : Process α) (f : α → Process β) (w : World σ) :
    (p >>= f).run env w = match p.run env w with
      | (some a, w') => (f a).run env w'
      | (none, w') => (none, w') := by
  induction p generalizing w with
  | done a => rfl
  | ask r next ih =>
      simp only [Process.ask_bind, Process.run]
      split
      · rfl
      · exact ih _ _

theorem Process.run_map (f : α → β) (p : Process α) (w : World σ) :
    (f <$> p).run env w = ((p.run env w).1.map f, (p.run env w).2) := by
  refine (run_bind p _ w).trans ?_
  cases p.run env w with
  | mk result w' => cases result <;> rfl

theorem Awaited.run_map (f : α → β) (c : Awaited α) (w : World σ) :
    (f <$> c).run env w = ((c.run env w).1.map f, (c.run env w).2) := by
  simp only [run, process_map, interrupted?_map, Process.run_map]
  cases (c.process.run env w).1 <;> rfl

namespace Task

variable {t : Task α} {f : α → Task β}

theorem run_bind_of_ok {a : α} (h : t.run.run env w = (some (.ok a), w')) :
    (t >>= f).run.run env w = (f a).run.run env w' := by
  change (t.run >>= _).run env w = _
  rw [Process.run_bind, h]
  rfl

theorem run_bind_of_error {e : EngineError} (h : t.run.run env w = (some (.error e), w')) :
    (t >>= f).run.run env w = (some (.error e), w') := by
  change (t.run >>= _).run env w = _
  rw [Process.run_bind, h]
  rfl

theorem run_bind_of_none (h : t.run.run env w = (none, w')) : (t >>= f).run.run env w = (none, w') := by
  change (t.run >>= _).run env w = _
  rw [Process.run_bind, h]

/-- Where the second of two tasks succeeds, so did the first. -/
theorem ok_of_run_bind {b : β} (h : ((t >>= f).run.run env w).1 = some (.ok b)) :
    ∃ a w', t.run.run env w = (some (.ok a), w') := by
  cases first : t.run.run env w with
  | mk r w' =>
      rcases r with _ | e | a
      · rw [run_bind_of_none first] at h
        cases h
      · rw [run_bind_of_error first] at h
        cases h
      · exact ⟨a, w', rfl⟩

theorem run_tryCatch_of_ok {g : EngineError → Task α} {a : α} (h : t.run.run env w = (some (.ok a), w')) :
    (tryCatch t g).run.run env w = (some (.ok a), w') := by
  change (t.run >>= _).run env w = _
  rw [Process.run_bind, h]
  rfl

theorem run_tryCatch_of_error {g : EngineError → Task α} {e : EngineError}
    (h : t.run.run env w = (some (.error e), w')) : (tryCatch t g).run.run env w = (g e).run.run env w' := by
  change (t.run >>= _).run env w = _
  rw [Process.run_bind, h]
  rfl

/-- Where a remedy never succeeds, what succeeded did so without it. -/
theorem ok_of_run_tryCatch {g : EngineError → Task α} {a : α}
    (never : ∀ (e : EngineError) (v : World σ) (b : α), ((g e).run.run env v).1 ≠ some (.ok b))
    (h : (tryCatch t g).run.run env w = (some (.ok a), w')) : t.run.run env w = (some (.ok a), w') := by
  cases first : t.run.run env w with
  | mk r v =>
      rcases r with _ | e | b
      · change (t.run >>= _).run env w = _ at h
        rw [Process.run_bind, first] at h
        cases h
      · rw [run_tryCatch_of_error first] at h
        exact absurd (congrArg Prod.fst h) (never e v a)
      · rw [run_tryCatch_of_ok first] at h
        exact h

/-- What the store replies to a call. -/
theorem run_ask {c : StoreCall} {reply : StoreReply c} (replied : World.call env c w = (some reply, w')) :
    (ask c).run.run env w = (some (.ok reply), w') := by
  have asked : World.answer env (.store c) w = (some (reply, 0), w') := by
    simp only [World.answer, replied]
    rfl
  change Process.run env (.ask (.store c) _) w = _
  simp only [Process.run, asked]
  rfl

/-- A call to the store, from the reply. -/
theorem run_call {c : StoreCall} {reply : StoreReply c} (replied : World.call env c w = (some reply, w')) :
    (call c).run.run env w = (some (reply.mapError .store), w') := by
  rw [call, run_bind_of_ok (run_ask replied)]
  cases reply <;> rfl

theorem run_sleep (ns : Nat) : (request (.sleep ns)).run.run env w = (some (.ok ()), w.later (World.wholeMs ns)) := rfl

end Task

end Running

end WorkflowEngine
