/-
Module: WorkflowEngine.Proofs.Rewiring
Layer: Proofs
Purpose: Runs in a world in which workflows are stored in another way.  A run reads the nodes and edges of its
  workflow once and then only asks which node comes next.  So if two workflows answer that alike, a run of the one is
  a run of the other, to the last reading of the clock (`Executor.runAttached_rewired`).
Imports: WorkflowEngine.Proofs.LegalWalk, WorkflowEngine.Proofs.Running
Trusted boundary: none
Main exports: Process.Indifferent, Workflow.Alike, Executor.walk_alike, World.rewired, Executor.runAttached_rewired
-/
import WorkflowEngine.Proofs.LegalWalk
import WorkflowEngine.Proofs.Running

namespace WorkflowEngine

/-! ## Workflows that walks cannot tell apart -/

/-- Two workflows are entered at the same node, and go on alike from all nodes within a range that is never left. -/
structure Workflow.Alike (within : Node → Prop) (w w' : Workflow) (trigger : Node) : Prop where
  entry : Executor.entry (.ofWorkflow w) = .ok trigger
  entry_other : Executor.entry (.ofWorkflow w') = .ok trigger
  begins : within trigger
  next?_eq : ∀ n, within n → ∀ result,
    (Graph.ofWorkflow w').next? n result = (Graph.ofWorkflow w).next? n result
  stays : ∀ n, within n → ∀ result next, (Graph.ofWorkflow w).next? n result = some next → within next

/-- Walks do not tell apart what goes on alike. -/
theorem Executor.walk_alike (x : Executor) (e : Execution) {within : Node → Prop} {w w' : Workflow} {trigger : Node}
    (alike : w.Alike within w' trigger) (left taken : Nat) (context : Context) {node : Option Node}
    (inside : ∀ n, node = some n → within n) :
    x.walk e (.ofWorkflow w') left taken context node = x.walk e (.ofWorkflow w) left taken context node := by
  induction left generalizing taken context node with
  | zero => cases node <;> rfl
  | succ left ih =>
      cases node with
      | none => rfl
      | some n =>
          have here := inside n rfl
          rw [walk, walk]
          congr 1
          funext result
          cases result with
          | error message => rfl
          | ok output =>
              simp only
              split
              · rfl
              · rw [alike.next?_eq n here]
                exact ih _ _ (alike.stays n here _)

/-! ## Runs that a change of the world makes no difference to -/

/-- A change of the world is not noticed by a process, and is still there at the end. -/
def Process.Indifferent {σ α : Type} [Store σ] (env : Environment) (change : World σ → World σ) (p : Process α)
    (w : World σ) : Prop :=
  p.run env (change w) = ((p.run env w).1, change (p.run env w).2)

section Indifferent

variable {σ α β : Type} [Store σ] {env : Environment} {change : World σ → World σ} {w : World σ}

theorem Process.Indifferent.bind {p : Process α} {f : α → Process β} (h : p.Indifferent env change w)
    (follows : ∀ a w', p.run env w = (some a, w') → (f a).Indifferent env change w') :
    (p >>= f).Indifferent env change w := by
  unfold Indifferent at *
  rw [Process.run_bind, Process.run_bind, h]
  cases ran : p.run env w with
  | mk result w' =>
      cases result with
      | none => rfl
      | some a => exact follows a w' ran

namespace Task

theorem indifferent_bind {t : Task α} {f : α → Task β} (h : t.run.Indifferent env change w)
    (follows : ∀ a w', t.run.run env w = (some (.ok a), w') → (f a).run.Indifferent env change w') :
    (t >>= f).run.Indifferent env change w := by
  apply h.bind
  intro result w' ran
  cases result with
  | ok a => exact follows a w' ran
  | error e => rfl

theorem indifferent_tryCatch {t : Task α} {f : EngineError → Task α} (h : t.run.Indifferent env change w)
    (remedy : ∀ e w', t.run.run env w = (some (.error e), w') → (f e).run.Indifferent env change w') :
    (tryCatch t f).run.Indifferent env change w := by
  apply h.bind
  intro result w' ran
  cases result with
  | ok a => rfl
  | error e => exact remedy e w' ran

end Task

end Indifferent

/-! ## Worlds in which workflows are stored in another way -/

/-- The store with other lists of nodes and edges. -/
def MemoryStore.rewired (s : MemoryStore) (nodes : Table (List NodeRow)) (edges : Table (List EdgeRow)) :
    MemoryStore :=
  { s with nodes, edges }

/-- The world whose store has other lists of nodes and edges. -/
def World.rewired (w : World MemoryStore) (nodes : Table (List NodeRow)) (edges : Table (List EdgeRow)) :
    World MemoryStore :=
  { w with store := w.store.rewired nodes edges }

section Runs

variable {env : Environment} {nodes : Table (List NodeRow)} {edges : Table (List EdgeRow)} {w : World MemoryStore}

theorem MemoryStore.answer_rewired (stamp : Stamp) {call : StoreCall} (noNodes : call.method ≠ .listNodes)
    (noEdges : call.method ≠ .listEdges) (s : MemoryStore) :
    answer stamp call (s.rewired nodes edges) =
      ((answer stamp call s).1, (answer stamp call s).2.rewired nodes edges) := by
  cases call with
  | listNodes => exact absurd rfl noNodes
  | listEdges => exact absurd rfl noEdges
  | createExecution | getExecution | getWorkflow | listSteps => rfl
  | markRunning id startedAt =>
      simp only [answer, rewired]
      split
      · rfl
      · split <;> rfl
  | finishExecution id finish =>
      simp only [answer, rewired]
      split
      · rfl
      · split <;> rfl
  | insertStep step =>
      simp only [answer, rewired]
      split <;> rfl

namespace World

theorem reach_rewired {call : StoreCall} (noNodes : call.method ≠ .listNodes) (noEdges : call.method ≠ .listEdges)
    (w : World MemoryStore) : reach env call (w.rewired nodes edges) =
      ((reach env call w).1, (reach env call w).2.rewired nodes edges) := by
  simp only [reach, rewired, Store.answer, MemoryStore.answer_rewired _ noNodes noEdges]

/-- The world in which one more call is noted. -/
def noted (w : World MemoryStore) (m : StoreMethod) : World MemoryStore := { w with calls := m :: w.calls }

/-- Where no call fails, every call is noted and reaches the store. -/
theorem call_faultless (faultless : env.Faultless) (call : StoreCall) (w : World MemoryStore) :
    World.call env call w =
      (some (reach env call (w.noted call.method)).1, (reach env call (w.noted call.method)).2) := by
  simp only [World.call, faultless call.method]
  rfl

/-- Where no call fails, a call that leaves the store as it is is noted and nothing else. -/
theorem call_read (faultless : env.Faultless) {call : StoreCall} {reply : StoreReply call} (w : World MemoryStore)
    (takes : idsFor call = 0)
    (answered : MemoryStore.answer ⟨env.ids w.issued, w.now⟩ call w.store = (reply, w.store)) :
    World.call env call w = (some reply, w.noted call.method) := by
  have reached : reach env call (w.noted call.method) = (reply, w.noted call.method) := by
    simp only [reach, noted, Store.answer, answered, takes, Nat.add_zero]
  rw [call_faultless faultless, reached]

theorem answer_rewired (faultless : env.Faultless) {r : Request} (noNodes : r.method? ≠ some .listNodes)
    (noEdges : r.method? ≠ some .listEdges) (w : World MemoryStore) :
    World.answer env r (w.rewired nodes edges) =
      ((World.answer env r w).1, (World.answer env r w).2.rewired nodes edges) := by
  cases r with
  | store call =>
      have noNodes : call.method ≠ .listNodes := by simpa [Request.method?] using noNodes
      have noEdges : call.method ≠ .listEdges := by simpa [Request.method?] using noEdges
      have reached : reach env call ((w.rewired nodes edges).noted call.method) = _ :=
        reach_rewired noNodes noEdges (w.noted call.method)
      simp only [answer, call_faultless faultless]
      exact congrArg (fun told => (Option.map (fun a => (a, 0)) (some told.1), told.2)) reached
  | deliver mail =>
      simp only [answer, rewired]
      split <;> rfl
  | clock | freshId | sleep | exchange | note => rfl

end World

/-- What reads neither nodes nor edges does not notice that there are others. -/
theorem Process.indifferent_of_avoids (faultless : env.Faultless) {α : Type} {p : Process α} (noNodes : p.Avoids .listNodes)
    (noEdges : p.Avoids .listEdges) (w : World MemoryStore) :
    p.Indifferent env (·.rewired nodes edges) w := by
  induction p generalizing w with
  | done a => rfl
  | ask r next ih =>
      unfold Indifferent
      simp only [Process.run, World.answer_rewired faultless noNodes.1 noEdges.1]
      cases told : World.answer env r w with
      | mk reply w' =>
          rcases reply with _ | ⟨a, ms⟩
          · rfl
          · exact ih a (noNodes.2 a) (noEdges.2 a) (w'.later ms)

theorem World.answer_workflows (r : Request) (w : World MemoryStore) :
    w.store.KeepsWorkflows (World.answer env r w).2.store := by
  rcases @World.answer_leaves _ _ env r w with kept | ⟨call, stamp, -, reached⟩
  · rw [kept]
    exact .refl _
  · rw [reached]
    exact MemoryStore.answer_workflows rfl

/-- The workflows of a store stay as they are. -/
theorem Process.run_workflows {α : Type} (p : Process α) (w : World MemoryStore) :
    w.store.KeepsWorkflows (p.run env w).2.store :=
  p.run_follows (R := fun w w' => w.store.KeepsWorkflows w'.store) (fun w => .refl w.store) .trans World.answer_workflows
    (fun w _ => .refl w.store) w

/-- What is stored of a workflow in a world with other lists. -/
theorem MemoryStore.workflow?_rewired_congr {s s' : MemoryStore} (same : s'.workflows = s.workflows) (id : Uuid) :
    (s'.rewired nodes edges).workflow? id = (s.rewired nodes edges).workflow? id := by
  simp only [workflow?, rewired, same]

namespace Executor

variable {workflow other : Workflow} {trigger : Node} {within : Node → Prop}

/-- Where no call fails, a workflow that is stored is loaded and walked. -/
theorem drive_run (x : Executor) (faultless : env.Faultless) {e : Execution}
    (stored : w.store.workflow? e.workflowId = some workflow)
    (entered : entry (.ofWorkflow workflow) = .ok trigger) :
    (x.drive e).run.run env w =
      (x.walk e (.ofWorkflow workflow) x.maxSteps 0 (.new e.payload) (some trigger)).run.run env
        (((w.noted .getWorkflow).noted .listNodes).noted .listEdges) := by
  obtain ⟨row, found, rfl⟩ := Option.map_eq_some_iff.mp stored
  have told : World.call env (.getWorkflow e.workflowId) w = (some (.ok row), w.noted .getWorkflow) := by
    refine World.call_read faultless _ rfl ?_
    simp only [MemoryStore.answer, found]
    rfl
  have nodes : World.call env (.listNodes e.workflowId) (w.noted .getWorkflow) =
      (some (.ok ((w.store.nodes.find? e.workflowId).getD [])), (w.noted .getWorkflow).noted .listNodes) :=
    World.call_read faultless _ rfl rfl
  have edges : World.call env (.listEdges e.workflowId) ((w.noted .getWorkflow).noted .listNodes) =
      (some (.ok ((w.store.edges.find? e.workflowId).getD [])),
        ((w.noted .getWorkflow).noted .listNodes).noted .listEdges) :=
    World.call_read faultless _ rfl rfl
  rw [drive, Task.run_bind_of_ok (Task.run_ask told)]
  simp only
  rw [Task.run_bind_of_ok (Task.run_call nodes), Task.run_bind_of_ok (Task.run_call edges)]
  simp only [entered]

/-- Where no call fails, an execution that is stored is loaded. -/
theorem load_run (faultless : env.Faultless) {base : ExecutionRow}
    (there : w.store.executions.find? base.id = some base) :
    (load base.id).run.run env w = (some (base.toExecution.mapError .invalidRecord), w.noted .getExecution) := by
  have told : World.call env (.getExecution base.id) w = (some (.ok base), w.noted .getExecution) := by
    refine World.call_read faultless _ rfl ?_
    simp only [MemoryStore.answer, there]
    rfl
  rw [load, Task.run_bind_of_ok (Task.run_ask told)]
  simp only
  cases base.toExecution <;> rfl

theorem drive_rewired (x : Executor) (faultless : env.Faultless) {e : Execution}
    (stored : w.store.workflow? e.workflowId = some workflow)
    (rewired : (w.store.rewired nodes edges).workflow? e.workflowId = some other)
    (alike : workflow.Alike within other trigger) :
    (x.drive e).run.Indifferent env (·.rewired nodes edges) w := by
  have same : x.walk e (.ofWorkflow other) x.maxSteps 0 (.new e.payload) (some trigger) =
      x.walk e (.ofWorkflow workflow) x.maxSteps 0 (.new e.payload) (some trigger) := by
    apply x.walk_alike e alike
    rintro n ⟨⟩
    exact alike.begins
  unfold Process.Indifferent
  rw [x.drive_run faultless stored alike.entry,
    x.drive_run (w := w.rewired nodes edges) faultless rewired alike.entry_other, same]
  exact Process.indifferent_of_avoids faultless (walk_avoids (by decide) ..) (walk_avoids (by decide) ..)
    (((w.noted .getWorkflow).noted .listNodes).noted .listEdges)

theorem runStarted_rewired (x : Executor) (faultless : env.Faultless) {e : Execution}
    (stored : w.store.workflow? e.workflowId = some workflow)
    (rewired : (w.store.rewired nodes edges).workflow? e.workflowId = some other)
    (alike : workflow.Alike within other trigger) (clock : RunClock) :
    (x.runStarted e clock).run.Indifferent env (·.rewired nodes edges) w := by
  have ends (stepFailed : Bool) (error : Option String) (v : World MemoryStore) :
      (finalize e.id clock stepFailed error finalizePauses).run.Indifferent env (·.rewired nodes edges) v :=
    Process.indifferent_of_avoids faultless (finalize_avoids (by decide) ..) (finalize_avoids (by decide) ..) v
  apply Task.indifferent_bind
  · apply Task.indifferent_tryCatch (x.drive_rewired faultless stored rewired alike)
    intro err v _
    apply Task.indifferent_bind
    · apply Task.indifferent_tryCatch
      · exact Task.indifferent_bind (ends ..) fun _ _ _ => rfl
      · exact fun _ _ _ => rfl
    · exact fun _ _ _ => rfl
  · intro outcome v _
    exact Task.indifferent_bind (ends ..) fun _ _ _ => rfl

/-- A run does not notice if the workflow that is stored is another one, alike from its trigger on. -/
theorem runAttached_rewired (x : Executor) (faultless : env.Faultless) {base : ExecutionRow}
    (there : w.store.executions.find? base.id = some base)
    (stored : w.store.workflow? base.workflowId = some workflow)
    (rewired : (w.store.rewired nodes edges).workflow? base.workflowId = some other)
    (alike : workflow.Alike within other trigger) :
    (x.runAttached base.id).run.Indifferent env (·.rewired nodes edges) w := by
  have begun := load_run faultless there
  apply Task.indifferent_bind (Process.indifferent_of_avoids faultless (load_avoids (by decide) _)
    (load_avoids (by decide) _) w)
  intro e loaded ran
  have read : base.toExecution = .ok e := by
    rw [begun] at ran
    cases said : base.toExecution with
    | error reason =>
        rw [said] at ran
        cases ran
    | ok other =>
        rw [said] at ran
        cases ran
        rfl
  rw [← ExecutionRow.toExecution_workflowId read] at stored rewired
  apply Task.indifferent_bind (Process.indifferent_of_avoids faultless (start_avoids (by decide) _)
    (start_avoids (by decide) _) _)
  intro clock started ran'
  -- Neither the loading nor the start has changed what is stored of workflows.
  have kept := @Process.run_workflows env _ (load base.id).run w
  have keeps := @Process.run_workflows env _ (start e).run loaded
  rw [ran] at kept
  rw [ran'] at keeps
  have same := kept.trans keeps
  refine x.runStarted_rewired faultless ?_ ?_ alike clock
  · rw [same.workflow?_eq]
    exact stored
  · rw [MemoryStore.workflow?_rewired_congr same.workflows]
    exact rewired

end Executor

end Runs

end WorkflowEngine
