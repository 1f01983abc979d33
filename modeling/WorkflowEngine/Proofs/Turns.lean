/-
Module: WorkflowEngine.Proofs.Turns
Layer: Proofs
Purpose: What processes do in one turn.  Between pauses a process gets from one point to the next
  (`Process.Reaches`).  A caller that only reads, or that is too late to run an execution, is done in its first turn and
  leaves nothing but counted calls (`Process.Reads.idle`, `Executor.idle_late`); the first that runs a pending
  execution has started it by the end of its first turn (`Executor.run_opens`), and an execution that was started is
  never pending again.
Imports: WorkflowEngine.Proofs.BoundedTime, WorkflowEngine.Proofs.LostAcknowledgement, WorkflowEngine.Proofs.Separation,
  WorkflowEngine.Proofs.ServiceAnswers, WorkflowEngine.Proofs.StoreLives
Trusted boundary: none
Main exports: Process.Reaches, Process.Idle, Process.WellConducted, Holding.Begun, Executor.serve_run,
  Executor.run_opens, Executor.idle_late
-/
import WorkflowEngine.Proofs.BoundedTime
import WorkflowEngine.Proofs.LostAcknowledgement
import WorkflowEngine.Proofs.Separation
import WorkflowEngine.Proofs.ServiceAnswers
import WorkflowEngine.Proofs.StoreLives

namespace WorkflowEngine

/-! ## Going on without a pause -/

namespace Process

section Reaching

variable {σ α β : Type} [Store σ] {env : Environment} {p q : Process α} {w v : World σ}

/-- A process gets from one point to another without a pause. -/
inductive Reaches (env : Environment) : Process α → World σ → Process α → World σ → Prop where
  | refl (p : Process α) (w : World σ) : Reaches env p w p w
  | ask {r : Request} {next : r.Answer → Process α} {a : r.Answer} {q : Process α} {w w' v : World σ}
      (told : World.answer env r w = (some (a, 0), w')) (rest : Reaches env (next a) w' q v) :
      Reaches env (.ask r next) w q v

theorem Reaches.trans {o : Process α} {u : World σ} (h : Reaches env p w q v) (k : Reaches env q v o u) :
    Reaches env p w o u := by
  induction h with
  | refl => exact k
  | ask told _ ih => exact .ask told (ih k)

theorem Reaches.bind (h : Reaches env p w q v) (f : α → Process β) : Reaches env (p >>= f) w (q >>= f) v := by
  induction h with
  | refl => exact .refl ..
  | ask told _ ih => exact .ask told ih

theorem Reaches.advance_eq (h : Reaches env p w q v) : p.advance env w = q.advance env v := by
  induction h with
  | refl => rfl
  | ask told _ ih => simp only [advance, told, ih]

theorem Reaches.run_eq (h : Reaches env p w q v) : p.run env w = q.run env v := by
  induction h with
  | refl => rfl
  | ask told _ ih =>
      simp only [run, told]
      exact ih

theorem run_of_finished {result : Option α} (h : p.advance env w = (.finished result, v)) :
    p.run env w = (result, v) := by
  induction p generalizing w with
  | done a =>
      cases h
      rfl
  | ask r next ih =>
      simp only [advance] at h
      simp only [run]
      split at h
      · cases h
        simp only [*]
      · rename_i told
        simp only [told]
        exact ih _ h
      · cases h

theorem run_of_paused {ms : Nat} {rest : Process α} (h : p.advance env w = (.paused ms rest, v)) :
    p.run env w = rest.run env (v.later ms) := by
  induction p generalizing w with
  | done a => cases h
  | ask r next ih =>
      simp only [advance] at h
      simp only [run]
      split at h
      · cases h
      · rename_i told
        simp only [told]
        exact ih _ h
      · rename_i told
        cases h
        simp only [told]

end Reaching

end Process

/-! ## Worlds that differ in counted calls -/

section Counting

variable {env : Environment} {w w' : World MemoryStore}

theorem World.now_of_uncounted (same : w.uncounted = w'.uncounted) : w.now = w'.now :=
  (congrArg now same : w.uncounted.now = w'.uncounted.now)

theorem World.store_of_uncounted (same : w.uncounted = w'.uncounted) : w.store = w'.store :=
  (congrArg store same : w.uncounted.store = w'.uncounted.store)

/-- Where no call fails, it makes no difference how many calls were made before. -/
theorem World.answer_uncounted (faultless : env.Faultless) (same : w.uncounted = w'.uncounted) (r : Request) :
    (answer env r w).1 = (answer env r w').1 ∧ (answer env r w).2.uncounted = (answer env r w').2.uncounted := by
  obtain ⟨now, store, issued, requests, mails, notes, calls⟩ := w
  obtain ⟨now', store', issued', requests', mails', notes', calls'⟩ := w'
  simp only [uncounted, mk.injEq, and_true] at same
  obtain ⟨rfl, rfl, rfl, rfl, rfl, rfl⟩ := same
  cases r with
  | store call =>
      simp only [answer, call_faultless faultless]
      exact ⟨rfl, rfl⟩
  | deliver mail =>
      simp only [answer]
      split <;> exact ⟨rfl, rfl⟩
  | clock | freshId | sleep | exchange | note => exact ⟨rfl, rfl⟩

theorem Process.run_uncounted (faultless : env.Faultless) {α : Type} (p : Process α)
    (same : w.uncounted = w'.uncounted) :
    (p.run env w).1 = (p.run env w').1 ∧ (p.run env w).2.uncounted = (p.run env w').2.uncounted := by
  induction p generalizing w w' with
  | done a => exact ⟨rfl, same⟩
  | ask r next ih =>
      obtain ⟨told, same⟩ := World.answer_uncounted faultless same r
      simp only [run]
      cases here : World.answer env r w with
      | mk reply v =>
          cases there : World.answer env r w' with
          | mk reply' v' =>
              rw [here, there] at told same
              cases told
              rcases reply with _ | ⟨a, ms⟩
              · exact ⟨rfl, same⟩
              · exact ih a (congrArg (World.later · ms) same)

end Counting

/-! ## Idle processes -/

/-- A request that only reads from the store. -/
def Request.IsReading : Request → Prop
  | .store (.getExecution _) | .store (.getWorkflow _) | .store (.listNodes _) | .store (.listEdges _)
    | .store (.listSteps _) => True
  | _ => False

namespace Process

/-- A process only reads from the store. -/
def Reads {α : Type} : Process α → Prop
  | .done _ => True
  | .ask r next => r.IsReading ∧ ∀ a, Reads (next a)

theorem Reads.bind {α β : Type} {p : Process α} {f : α → Process β} (h : p.Reads) (hf : ∀ a, (f a).Reads) :
    (p >>= f).Reads := by
  induction p with
  | done a => exact hf a
  | ask r next ih => exact ⟨h.1, fun a => ih a (h.2 a)⟩

/-- A process is done with a value before it pauses, and leaves nothing but counted calls. -/
def Idle {α : Type} (env : Environment) (w : World MemoryStore) (p : Process α) (a : α) : Prop :=
  ∃ v, Reaches env p w (.done a) v ∧ v.uncounted = w.uncounted

end Process

section Idle

variable {α β : Type} {env : Environment} {w : World MemoryStore} {x : Executor} {id : Uuid}

/-- Where no call fails, what only reads is idle. -/
theorem Process.Reads.idle (faultless : env.Faultless) {p : Process α} (h : p.Reads) (w : World MemoryStore) :
    ∃ a, p.Idle env w a := by
  induction p generalizing w with
  | done a => exact ⟨a, w, .refl .., rfl⟩
  | ask r next ih =>
      obtain ⟨reading, rest⟩ := h
      have told : ∃ reply m, World.answer env r w = (some (reply, 0), w.noted m) := by
        cases r with
        | store call =>
            cases call with
            | getExecution | getWorkflow | listNodes | listEdges | listSteps =>
                simp only [World.answer, World.call_faultless faultless]
                exact ⟨_, _, rfl⟩
            | _ => cases reading
        | _ => cases reading
      obtain ⟨reply, m, told⟩ := told
      obtain ⟨a, v, reaches, same⟩ := ih reply (rest reply) (w.noted m)
      exact ⟨a, v, .ask told reaches, same⟩

namespace Task

theorem reads_bind {t : Task α} {f : α → Task β} (h : t.run.Reads) (hf : ∀ a, (f a).run.Reads) :
    (t >>= f).run.Reads := by
  apply Process.Reads.bind h
  intro r
  cases r with
  | ok a => exact hf a
  | error e => trivial

theorem reads_map {t : Task α} (f : α → β) (h : t.run.Reads) : (f <$> t).run.Reads := by
  apply Process.Reads.bind h
  intro r
  cases r <;> trivial

theorem reads_ofRecord (r : Except String α) : (ofRecord r).run.Reads := by
  cases r <;> trivial

/-- What follows a part that comes to a value follows it from there. -/
theorem reaches_bind {t : Task α} {f : α → Task β} {a : α} {v : World MemoryStore}
    (h : Process.Reaches env t.run w (.done (.ok a)) v) : Process.Reaches env (t >>= f).run w (f a).run v :=
  h.bind _

end Task

theorem load_reads (id : Uuid) : (load id).run.Reads := by
  refine Task.reads_bind ⟨trivial, fun _ => trivial⟩ fun reply => ?_
  cases reply with
  | ok row => exact Task.reads_ofRecord _
  | error f => cases f <;> trivial

/-- A row in a known state is the row of an execution. -/
theorem ExecutionRow.exists_execution {row : ExecutionRow} {status : ExecutionStatus}
    (known : row.status = status.name) : ∃ e : Execution, e.row = row ∧ e.status = status := by
  refine ⟨⟨row.id, row.workflowId, row.payload, status, row.error, row.startedAt, row.completedAt, row.durationMs,
    row.createdAt⟩, ?_, rfl⟩
  rw [Execution.row, ← known]

/-- Where no call fails, an execution that is stored is loaded without a pause. -/
theorem load_reaches (faultless : env.Faultless) {e : Execution}
    (there : w.store.executions.find? e.id = some e.row) :
    Process.Reaches env (load e.id).run w (.done (.ok e)) (w.noted .getExecution) := by
  obtain ⟨r, v, reaches, -⟩ := (load_reads e.id).idle faultless w
  have read : e.row.toExecution = .ok e := by
    simp only [ExecutionRow.toExecution, Execution.row, ExecutionStatus.read_name]
    rfl
  have found : w.store.executions.find? e.row.id = some e.row := there
  have loaded := Executor.load_run faultless found
  rw [read] at loaded
  cases reaches.run_eq.symm.trans loaded
  exact reaches

/-- What a caller that only looks at an execution wants. -/
def Demand.Looks : Demand → Prop
  | .get _ | .steps _ => True
  | _ => False

namespace Executor

/-- A caller that only looks goes through what it waits for itself. -/
theorem serve_reads {d : Demand} (looks : d.Looks) : ∃ p, (x.serve d).run = .inline p ∧ p.Reads := by
  cases d with
  | get id => exact ⟨_, rfl, Task.reads_map _ (load_reads id)⟩
  | steps id =>
      refine ⟨_, rfl, Task.reads_map _ (Task.reads_bind (load_reads id) fun _ => ?_)⟩
      refine Task.reads_bind (Task.reads_bind ⟨trivial, fun _ => trivial⟩ fun reply => ?_) fun rows =>
        Task.reads_ofRecord _
      cases reply <;> trivial
  | create | run => cases looks

/-- The task that is spawned for a caller that wants a run. -/
def runTask (x : Executor) (id : Uuid) : Process (Except EngineError Reply) := (Reply.summary <$> x.runAttached id).run

theorem serve_run {text : String} (named : readId text = .ok id) :
    (x.serve (.run text)).run = .spawned (x.runTask id) fun report => .error (.interrupted id report) := by
  rw [runTask, ExceptT.run_map, ← x.run_process id, serve, runNamed_of_readId named]
  rfl

end Executor

end Idle

/-! ## Executions that were started -/

/-- What is held of an execution that is not pending any more. -/
def Holding.Begun (h : Holding) (id : Uuid) : Prop :=
  ∃ e : Execution, h.row = some e.row ∧ e.id = id ∧ e.status ≠ .pending

/-- Once an execution was started, it is never pending again. -/
theorem Moves.begun {c : Columns} {id : Uuid} {h h' : Holding} {l : Line} (moves : Moves c id h l h')
    (begun : h.Begun id) :
    h'.Begun id := by
  obtain ⟨e, held, own, late⟩ := begun
  cases moves with
  | foreign | listed => exact ⟨e, held, own, late⟩
  | recorded => exact ⟨e, held, own, late⟩
  | created => cases held
  | started pending =>
      cases held
      exact absurd (ExecutionStatus.name_inj.mp pending) late
  | @finished row log f running ends =>
      cases held
      rcases ends with ended | ended
      · refine ⟨{ e with status := .completed, error := f.error, completedAt := some f.completedAt,
                         durationMs := some f.durationMs }, ?_, own, by simp⟩
        simp only [Execution.row, ExecutionRow.finished, ended]
      · refine ⟨{ e with status := .failed, error := f.error, completedAt := some f.completedAt,
                         durationMs := some f.durationMs }, ?_, own, by simp⟩
        simp only [Execution.row, ExecutionRow.finished, ended]

/-- A process keeps the rule of callers, and adds no execution, however it is told. -/
def Process.WellConducted {α : Type} (p : Process α) : Prop :=
  ∃ (ends : α → Dialogue → Prop) (d : Dialogue), p.Keeps (callerTerms .any false) ends d

section Begun

variable {α : Type} {env : Environment} {w v : World MemoryStore} {id : Uuid} {p : Process α}

/-- By the rule of callers, calls are proper. -/
theorem Conduct.proper {d : Dialogue} {call : StoreCall} (allowed : Conduct false d (.store call)) (stamp : Stamp)
    (holdingOf : Uuid → Holding) : call.Proper stamp holdingOf := by
  cases call with
  | createExecution => cases allowed
  | finishExecution =>
      cases allowed.2 with
      | completed status => exact .inl status
      | stepFailed status | otherwise status => exact .inr status
  | _ => trivial

theorem World.answer_begun (faultless : env.Faultless) {d : Dialogue} {r : Request} (allowed : Conduct false d r)
    {a : r.Answer} {ms : Nat} (told : World.answer env r w = (some (a, ms), v))
    (begun : (w.store.holdingOf id).Begun id) : (v.store.holdingOf id).Begun id := by
  cases World.served faultless.refuses.failsClean told with
  | aside aside store | refused aside store | lost aside store => rwa [store]
  | @reached call reply answered =>
      have moves := MemoryStore.answer_moves (allowed.proper ⟨env.ids w.issued, w.now⟩ w.store.holdingOf) id
      have answered : MemoryStore.answer ⟨env.ids w.issued, w.now⟩ call w.store = (reply, v.store) := answered
      rw [answered] at moves
      exact moves.begun begun

namespace Process

theorem WellConducted.next {r : Request} {next : r.Answer → Process α} (h : (ask r next).WellConducted)
    (a : r.Answer) : (next a).WellConducted := by
  obtain ⟨ends, d, allowed, keeps⟩ := h
  exact ⟨ends, _, keeps a trivial⟩

theorem Reaches.wellConducted {q : Process α} (h : Reaches env p w q v) (conducted : p.WellConducted) :
    q.WellConducted := by
  induction h with
  | refl => exact conducted
  | ask told _ ih => exact ih (conducted.next _)

/-- A turn takes no time. -/
theorem advance_now (faultless : env.Faultless) {progress : Progress α} (advanced : p.advance env w = (progress, v)) :
    v.now = w.now := by
  induction p generalizing w with
  | done a =>
      cases advanced
      rfl
  | ask r next ih =>
      simp only [advance] at advanced
      split at advanced
      · rename_i broke
        exact absurd broke (faultless.refuses.answer_ne_none r w _)
      · rename_i told
        exact (ih _ advanced).trans (World.answer_takes faultless told).2
      · rename_i told
        cases advanced
        exact (World.answer_takes faultless told).2

/-- A turn leaves what was started as started, and after a pause the process goes on by the rule. -/
theorem WellConducted.advance (faultless : env.Faultless) (conducted : p.WellConducted)
    (begun : (w.store.holdingOf id).Begun id) {progress : Progress α} (advanced : p.advance env w = (progress, v)) :
    (v.store.holdingOf id).Begun id ∧ ∀ ms rest, progress = .paused ms rest → 0 < ms ∧ rest.WellConducted := by
  induction p generalizing w with
  | done a =>
      cases advanced
      exact ⟨begun, nofun⟩
  | ask r next ih =>
      have ⟨_, d, allowed, _⟩ := conducted
      simp only [Process.advance] at advanced
      split at advanced
      · rename_i broke
        exact absurd broke (faultless.refuses.answer_ne_none r w _)
      · rename_i told
        exact ih _ (conducted.next _) (World.answer_begun faultless allowed told begun) advanced
      · rename_i told
        cases advanced
        refine ⟨World.answer_begun faultless allowed told begun, ?_⟩
        rintro _ _ ⟨⟩
        exact ⟨Nat.succ_pos _, conducted.next _⟩

/-- What was started is still started when a process has run to its end. -/
theorem WellConducted.run_begun (faultless : env.Faultless) (conducted : p.WellConducted)
    (begun : (w.store.holdingOf id).Begun id) : ((p.run env w).2.store.holdingOf id).Begun id := by
  induction p generalizing w with
  | done a => exact begun
  | ask r next ih =>
      have ⟨_, d, allowed, _⟩ := conducted
      simp only [run]
      split
      · rename_i broke
        exact absurd broke (faultless.refuses.answer_ne_none r w _)
      · rename_i told
        have still := World.answer_begun faultless allowed told begun
        exact ih _ (conducted.next _) still

end Process

end Begun

/-! ## The first turns of runs -/

namespace Executor

variable {env : Environment} {w : World MemoryStore} {e : Execution}

/-- The run of an execution that was started is refused in its first turn. -/
theorem idle_late (x : Executor) (faultless : env.Faultless) (there : w.store.executions.find? e.id = some e.row)
    (late : e.status ≠ .pending) :
    (x.runTask e.id).Idle env w (.error (.alreadyStarted e.id e.status.name)) := by
  refine ⟨w.noted .getExecution, ?_, rfl⟩
  have loaded := load_reaches faultless there
  refine (Process.Reaches.bind (Task.reaches_bind loaded) _).trans ?_
  rw [start, if_pos late]
  exact .refl ..

/-- Where no call fails, a pending execution is started without a pause. -/
theorem start_reaches (faultless : env.Faultless) (there : w.store.executions.find? e.id = some e.row)
    (pending : e.status = .pending) :
    ∃ clock v, Process.Reaches env (start e).run w (.done (.ok clock)) v ∧
      v.store.executions.find? e.id = some (e.row.started w.now) := by
  have state : e.row.status = "pending" := congrArg ExecutionStatus.name pending
  let v : World MemoryStore := { w with
    calls := .markRunning :: w.calls
    store := { w.store with executions := w.store.executions.put e.id (e.row.started w.now) } }
  have marked : World.answer env (.store (.markRunning e.id w.now)) w = (some (.ok true, 0), v) := by
    simp only [World.answer, World.call_faultless faultless, World.reach, Store.answer, MemoryStore.answer,
      World.noted, there, state, if_true]
    rfl
  refine ⟨⟨w.now, w.now⟩, v, ?_, Table.find?_put_self ..⟩
  rw [start, if_neg (not_not.mpr pending)]
  exact .ask rfl (.ask marked (.ask rfl (.refl ..)))

/-- The first turn of the run of a pending execution starts it. -/
theorem run_opens (x : Executor) (faultless : env.Faultless) (there : w.store.executions.find? e.id = some e.row)
    (pending : e.status = .pending) :
    ∃ rest v, Process.Reaches env (x.runTask e.id) w rest v ∧ (v.store.holdingOf e.id).Begun e.id := by
  have loaded := load_reaches faultless there
  obtain ⟨clock, v, started, found⟩ := start_reaches (w := w.noted .getExecution) faultless there pending
  have begun : Process.Reaches env (x.runAttached e.id).run w (x.runStarted e clock).run v :=
    (Task.reaches_bind loaded).trans (Task.reaches_bind started)
  refine ⟨_, v, begun.bind _, ?_⟩
  exact ⟨{ e with status := .running, startedAt := some w.now }, found, rfl, by simp⟩

end Executor

end WorkflowEngine
