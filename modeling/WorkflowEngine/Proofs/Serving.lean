/-
Module: WorkflowEngine.Proofs.Serving
Layer: Proofs
Purpose: How a store in memory serves calls.  A call changes what is held of one execution at most, and the reply
  tells how; a call that fails changes nothing, unless the environment loses the acknowledgement.
Imports: WorkflowEngine.Proofs.Dialogue, WorkflowEngine.Store.Memory, WorkflowEngine.World
Trusted boundary: none
Main exports: ExecutionRow.started, MemoryStore.Holds, MemoryStore.Change, MemoryStore.answer_change,
  MemoryStore.KeepsWorkflows, Environment.FailsClean, Served, World.call_store, World.served, Process.run_follows
-/
import WorkflowEngine.Proofs.Dialogue
import WorkflowEngine.Store.Memory
import WorkflowEngine.World

namespace WorkflowEngine

/-- A row with what is written when a run starts. -/
def ExecutionRow.started (row : ExecutionRow) (startedAt : Instant) : ExecutionRow :=
  { row with status := ExecutionStatus.running.name, startedAt := some startedAt }

namespace MemoryStore

variable {s s' : MemoryStore} {stamp : Stamp} {id : Uuid}

/-! ## Executions in a store -/

/-- What a store holds of an execution: its row, if there is one, and its steps. -/
structure Holds (s : MemoryStore) (id : Uuid) (row : Option ExecutionRow) (log : List StepRow) : Prop where
  row : s.executions.find? id = row
  log : s.stepsOf id = log

namespace Holds

variable {row : Option ExecutionRow} {log : List StepRow}

theorem put_self (h : s.Holds id row log) (new : ExecutionRow) :
    Holds { s with executions := s.executions.put id new } id (some new) log :=
  ⟨Table.find?_put_self .., h.log⟩

theorem put_other (h : s.Holds id row log) {other : Uuid} (ne : other ≠ id) (new : ExecutionRow) :
    Holds { s with executions := s.executions.put other new } id row log :=
  ⟨(Table.find?_put_ne _ _ ne.symm).trans h.row, h.log⟩

theorem log_self (h : s.Holds id row log) (new : List StepRow) :
    Holds { s with steps := s.steps.put id new } id row new :=
  ⟨h.row, by simp [stepsOf]⟩

theorem log_other (h : s.Holds id row log) {other : Uuid} (ne : other ≠ id) (new : List StepRow) :
    Holds { s with steps := s.steps.put other new } id row log :=
  ⟨h.row, by simpa [stepsOf, Table.find?_put_ne _ _ ne.symm] using h.log⟩

end Holds

/-! ## Replies and what they change -/

/-- What a store does with a call, and what it replies: it adds an execution, starts one, ends one or records a step
of one, or it leaves everything as it is. -/
inductive Change (stamp : Stamp) (s : MemoryStore) : (call : StoreCall) → StoreReply call → MemoryStore → Prop where
  | created (workflowId : Uuid) (payload : Json) :
      Change stamp s (.createExecution workflowId payload) (.ok (.new stamp.id workflowId payload stamp.now))
        { s with executions := s.executions.put stamp.id (.new stamp.id workflowId payload stamp.now) }
  | started {id : Uuid} {row : ExecutionRow} (startedAt : Instant) (found : s.executions.find? id = some row)
      (pending : row.status = ExecutionStatus.pending.name) :
      Change stamp s (.markRunning id startedAt) (.ok true)
        { s with executions := s.executions.put id (row.started startedAt) }
  | finished {id : Uuid} {row : ExecutionRow} (f : Finish) (found : s.executions.find? id = some row)
      (running : row.status = ExecutionStatus.running.name) :
      Change stamp s (.finishExecution id f) (.ok ())
        { s with executions := s.executions.put id (row.finished f) }
  | recorded {row : ExecutionRow} (step : StepRow) (found : s.executions.find? step.executionId = some row) :
      Change stamp s (.insertStep step) (.ok ())
        { s with steps := s.steps.put step.executionId (s.stepsOf step.executionId ++ [step]) }
  | unwritten {call : StoreCall} {reply : StoreReply call} (quiet : Dialogue.Quiet [⟨.store call, reply⟩])
      (old : call.method ≠ .createExecution) : Change stamp s call reply s

theorem answer_change (stamp : Stamp) (call : StoreCall) (s : MemoryStore) :
    Change stamp s call (answer stamp call s).1 (answer stamp call s).2 := by
  cases call with
  | createExecution workflowId payload => exact .created workflowId payload
  | markRunning id startedAt =>
      cases found : s.executions.find? id with
      | none =>
          simp only [answer, found]
          exact .unwritten (Dialogue.quiet_error ..) nofun
      | some row =>
          by_cases pending : row.status = "pending"
          · simp only [answer, found, pending, if_true]
            exact .started startedAt found pending
          · simp only [answer, found, pending, if_false]
            exact .unwritten ⟨rfl, rfl, rfl⟩ nofun
  | finishExecution id f =>
      cases found : s.executions.find? id with
      | none =>
          simp only [answer, found]
          exact .unwritten (Dialogue.quiet_error ..) nofun
      | some row =>
          by_cases running : row.status = "running"
          · simp only [answer, found, running, if_true]
            exact .finished f found running
          · simp only [answer, found, running, if_false]
            exact .unwritten (Dialogue.quiet_error ..) nofun
  | insertStep step =>
      cases found : s.executions.find? step.executionId with
      | none =>
          simp only [answer, found]
          exact .unwritten (Dialogue.quiet_error ..) nofun
      | some row =>
          simp only [answer, found]
          exact .recorded step found
  | getExecution | getWorkflow | listNodes | listEdges | listSteps => exact .unwritten ⟨rfl, rfl, rfl⟩ nofun

theorem change_of_answer {call : StoreCall} {reply : StoreReply call} (h : answer stamp call s = (reply, s')) :
    Change stamp s call reply s' := by
  have change := answer_change stamp call s
  rwa [h] at change

theorem answer_createExecution {workflowId : Uuid} {payload : Json}
    {reply : StoreReply (.createExecution workflowId payload)}
    (h : answer stamp (.createExecution workflowId payload) s = (reply, s')) :
    reply = .ok (.new stamp.id workflowId payload stamp.now) ∧
      s' = { s with executions := s.executions.put stamp.id (.new stamp.id workflowId payload stamp.now) } := by
  cases change_of_answer h with
  | created => exact ⟨rfl, rfl⟩
  | unwritten _ old => exact absurd rfl old

theorem answer_markRunning_true {startedAt : Instant}
    (h : answer stamp (.markRunning id startedAt) s = (.ok true, s')) :
    ∃ row, s.executions.find? id = some row ∧ row.status = ExecutionStatus.pending.name ∧
      s' = { s with executions := s.executions.put id (row.started startedAt) } := by
  cases change_of_answer h with
  | started _ found pending => exact ⟨_, found, pending, rfl⟩
  | unwritten quiet => cases quiet.start?

theorem answer_finishExecution_ok {f : Finish} (h : answer stamp (.finishExecution id f) s = (.ok (), s')) :
    ∃ row, s.executions.find? id = some row ∧ row.status = ExecutionStatus.running.name ∧
      s' = { s with executions := s.executions.put id (row.finished f) } := by
  cases change_of_answer h with
  | finished _ found running => exact ⟨_, found, running, rfl⟩
  | unwritten quiet => cases quiet.finish?

theorem answer_insertStep_ok {step : StepRow} (h : answer stamp (.insertStep step) s = (.ok (), s')) :
    s' = { s with steps := s.steps.put step.executionId (s.stepsOf step.executionId ++ [step]) } := by
  cases change_of_answer h with
  | recorded => rfl
  | unwritten quiet => cases quiet.steps

/-- Apart from new executions, a store changes only where its reply says so. -/
theorem answer_quiet {call : StoreCall} {reply : StoreReply call} (h : answer stamp call s = (reply, s'))
    (quiet : Dialogue.Quiet [⟨.store call, reply⟩]) (old : call.method ≠ .createExecution) : s' = s := by
  cases change_of_answer h with
  | created => exact absurd rfl old
  | started => cases quiet.start?
  | finished => cases quiet.finish?
  | recorded => cases quiet.steps
  | unwritten => rfl

/-- What became of a store has kept its workflows. -/
structure KeepsWorkflows (s s' : MemoryStore) : Prop where
  workflows : s'.workflows = s.workflows
  nodes : s'.nodes = s.nodes
  edges : s'.edges = s.edges

theorem KeepsWorkflows.refl (s : MemoryStore) : s.KeepsWorkflows s := ⟨rfl, rfl, rfl⟩

theorem KeepsWorkflows.trans {s'' : MemoryStore} (h : s.KeepsWorkflows s') (h' : s'.KeepsWorkflows s'') :
    s.KeepsWorkflows s'' :=
  ⟨h'.workflows.trans h.workflows, h'.nodes.trans h.nodes, h'.edges.trans h.edges⟩

/-- No call changes a workflow. -/
theorem answer_workflows {call : StoreCall} {reply : StoreReply call} (h : answer stamp call s = (reply, s')) :
    s.KeepsWorkflows s' := by
  cases change_of_answer h with
  | _ => exact ⟨rfl, rfl, rfl⟩

/-! ## Writes that are served -/

theorem answer_markRunning_found {startedAt : Instant} {row : ExecutionRow}
    (found : s.executions.find? id = some row) :
    (answer stamp (.markRunning id startedAt) s).1 = .ok (decide (row.status = ExecutionStatus.pending.name)) := by
  simp only [answer, found]
  split
  · rename_i pending
    exact congrArg _ (decide_eq_true pending).symm
  · rename_i late
    exact congrArg _ (decide_eq_false late).symm

theorem answer_finishExecution_running {f : Finish} {row : ExecutionRow}
    (found : s.executions.find? id = some row) (running : row.status = ExecutionStatus.running.name) :
    (answer stamp (.finishExecution id f) s).1 = .ok () := by
  have status : row.status = "running" := running
  simp only [answer, found, status, if_true]

theorem answer_insertStep_found {step : StepRow} {row : ExecutionRow}
    (found : s.executions.find? step.executionId = some row) : (answer stamp (.insertStep step) s).1 = .ok () := by
  simp only [answer, found]

end MemoryStore

/-! ## Worlds -/

/-- A call that fails has no effect. -/
def Environment.FailsClean (env : Environment) : Prop := ∀ m n f, env.faults m n ≠ some (.unacknowledged f)

/-- An environment in which nothing fails, and no host responds. -/
def Environment.calm : Environment :=
  ⟨fun _ _ => .silent, fun _ _ => .ok (), fun _ _ => none, Uuid.ofNat, "the task panicked"⟩

theorem Environment.calm_failsClean : calm.FailsClean := fun _ _ _ => nofun

/-- How a line comes about when a call that fails has no effect. -/
inductive Served {σ : Type} [Store σ] (env : Environment) (w w' : World σ) : Line → Prop where
  | aside {r : Request} {a : r.Answer} (aside : r.method? = none) (store : w'.store = w.store)
      (issued : w.issued ≤ w'.issued) : Served env w w' ⟨r, a⟩
  | refused {call : StoreCall} {f : StoreFault}
      (effect : env.faults call.method (w.callCount call.method) = some (.refuse f)) (store : w'.store = w.store)
      (issued : w'.issued = w.issued) : Served env w w' ⟨.store call, .error f⟩
  | lost {id : Uuid} {startedAt : Instant}
      (effect : env.faults .markRunning (w.callCount .markRunning) = some .lose) (store : w'.store = w.store)
      (issued : w'.issued = w.issued) : Served env w w' ⟨.store (.markRunning id startedAt), .ok false⟩
  | reached {call : StoreCall} {reply : StoreReply call}
      (answered : Store.answer ⟨env.ids w.issued, w.now⟩ call w.store = (reply, w'.store))
      (issued : w'.issued = w.issued + World.idsFor call) : Served env w w' ⟨.store call, reply⟩

namespace Served

variable {env : Environment} {w w' : World MemoryStore} {l : Line}

/-- A call that was answered reached the store, unless it was a start that was reported as lost. -/
theorem answer_ok {call : StoreCall} {a : call.Answer} (h : Served env w w' ⟨.store call, .ok a⟩)
    (kept : ∀ id startedAt, (⟨.store call, .ok a⟩ : Line) ≠ ⟨.store (.markRunning id startedAt), .ok false⟩ := by
      rintro _ _ ⟨⟩) :
    MemoryStore.answer ⟨env.ids w.issued, w.now⟩ call w.store = (.ok a, w'.store) := by
  cases h with
  | aside aside => cases aside
  | lost => exact absurd rfl (kept _ _)
  | reached answered => exact answered

/-- Workflows stay as they are. -/
theorem workflows (h : Served env w w' l) : w.store.KeepsWorkflows w'.store := by
  cases h with
  | aside _ store | refused _ store | lost _ store =>
      rw [store]
      exact .refl _
  | reached answered => exact MemoryStore.answer_workflows answered

/-- A new execution takes an id. -/
theorem issued_create {workflowId : Uuid} {payload : Json} {row : ExecutionRow}
    (h : Served env w w' ⟨.store (.createExecution workflowId payload), .ok row⟩) : w'.issued = w.issued + 1 := by
  cases h with
  | aside aside => cases aside
  | reached _ issued => exact issued

theorem issued_le (h : Served env w w' l) : w.issued ≤ w'.issued := by
  cases h with
  | aside _ _ issued => exact issued
  | refused _ _ issued | lost _ _ issued => exact Nat.le_of_eq issued.symm
  | reached _ issued => rw [issued]; exact Nat.le_add_right ..

/-- What writes to no execution leaves all but a new execution as it is. -/
theorem holds_quiet (h : Served env w w' l) (quiet : Dialogue.Quiet [l]) {id : Uuid}
    (other : ∀ workflowId payload row, l = ⟨.store (.createExecution workflowId payload), .ok row⟩ →
      env.ids w.issued ≠ id)
    {row : Option ExecutionRow} {log : List StepRow} (holds : w.store.Holds id row log) :
    w'.store.Holds id row log := by
  cases h with
  | aside _ store | refused _ store | lost _ store => rwa [store]
  | @reached call reply answered =>
      cases call with
      | createExecution workflowId payload =>
          obtain ⟨told, stored⟩ := MemoryStore.answer_createExecution answered
          subst told
          rw [stored]
          exact holds.put_other (other _ _ _ rfl) _
      | _ =>
          rw [MemoryStore.answer_quiet answered quiet (by simp [StoreCall.method])]
          exact holds

end Served

namespace World

variable {σ : Type} [Store σ] {env : Environment} {w w' : World σ}

/-- How a call comes out. -/
private inductive CallEnds (env : Environment) (w : World σ) :
    (call : StoreCall) → Option (StoreReply call) → World σ → Prop where
  | refused {call : StoreCall} {f : StoreFault} {w' : World σ}
      (effect : env.faults call.method (w.callCount call.method) = some (.refuse f)) (store : w'.store = w.store)
      (issued : w'.issued = w.issued) : CallEnds env w call (some (.error f)) w'
  | unacknowledged {call : StoreCall} {f : StoreFault} {w' : World σ}
      (effect : env.faults call.method (w.callCount call.method) = some (.unacknowledged f))
      (store : w'.store = (Store.answer ⟨env.ids w.issued, w.now⟩ call w.store).2) :
      CallEnds env w call (some (.error f)) w'
  | lost {id : Uuid} {startedAt : Instant} {w' : World σ}
      (effect : env.faults .markRunning (w.callCount .markRunning) = some .lose) (store : w'.store = w.store)
      (issued : w'.issued = w.issued) : CallEnds env w (.markRunning id startedAt) (some (.ok false)) w'
  | crashed {call : StoreCall} {w' : World σ}
      (effect : env.faults call.method (w.callCount call.method) = some .crash) (store : w'.store = w.store)
      (issued : w'.issued = w.issued) : CallEnds env w call none w'
  | reached {call : StoreCall} {reply : StoreReply call} {w' : World σ}
      (answered : Store.answer ⟨env.ids w.issued, w.now⟩ call w.store = (reply, w'.store))
      (issued : w'.issued = w.issued + idsFor call) : CallEnds env w call (some reply) w'

private theorem call_ends (call : StoreCall) :
    CallEnds env w call (World.call env call w).1 (World.call env call w).2 := by
  cases effect : env.faults call.method (w.callCount call.method) with
  | none =>
      simp only [World.call, effect]
      exact .reached rfl rfl
  | some e =>
      cases e with
      | refuse f =>
          simp only [World.call, effect]
          exact .refused effect rfl rfl
      | unacknowledged f =>
          simp only [World.call, effect]
          exact .unacknowledged effect rfl
      | crash =>
          simp only [World.call, effect]
          exact .crashed effect rfl rfl
      | lose =>
          cases call with
          | markRunning id startedAt =>
              simp only [World.call, effect]
              exact .lost effect rfl rfl
          | _ =>
              simp only [World.call, effect]
              exact .reached rfl rfl

/-- However a call comes out, the store is as it was, or as it was left by the answer.  What the caller is told is the
answer, unless a start is reported as lost. -/
theorem call_store (call : StoreCall) :
    ((World.call env call w).2.store = w.store ∧
        ∀ a, (World.call env call w).1 = some (.ok a) → call.method = .markRunning) ∨
      ((World.call env call w).2.store = (Store.answer ⟨env.ids w.issued, w.now⟩ call w.store).2 ∧
        ∀ a, (World.call env call w).1 = some (.ok a) →
          (Store.answer ⟨env.ids w.issued, w.now⟩ call w.store).1 = .ok a) := by
  have ends : CallEnds env w call _ _ := call_ends call
  generalize (World.call env call w).1 = told at ends
  generalize (World.call env call w).2 = w' at ends
  cases ends with
  | refused effect store => exact .inl ⟨store, by rintro _ ⟨⟩⟩
  | unacknowledged effect store => exact .inr ⟨store, by rintro _ ⟨⟩⟩
  | lost effect store => exact .inl ⟨store, fun _ _ => rfl⟩
  | crashed effect store => exact .inl ⟨store, by rintro _ ⟨⟩⟩
  | reached answered =>
      rw [answered]
      exact .inr ⟨rfl, fun a told => Option.some.inj told⟩

private theorem answer_store {call : StoreCall} {told : Option (StoreReply call × Nat)}
    (h : World.answer env (.store call) w = (told, w')) :
    ∃ reply, told = reply.map (fun a => (a, 0)) ∧ CallEnds env w call reply w' := by
  simp only [answer, Prod.mk.injEq] at h
  obtain ⟨rfl, rfl⟩ := h
  exact ⟨_, rfl, call_ends call⟩

/-- A request leaves the store as it is, or is a call that the store answers. -/
theorem answer_leaves (r : Request) (w : World σ) :
    (World.answer env r w).2.store = w.store ∨
      ∃ call stamp, r = .store call ∧ (World.answer env r w).2.store = (Store.answer stamp call w.store).2 := by
  cases r with
  | store call =>
      have ends := @call_store σ _ env w call
      rcases ends with ⟨kept, -⟩ | ⟨reached, -⟩
      · exact .inl kept
      · exact .inr ⟨call, _, rfl, reached⟩
  | deliver mail =>
      simp only [answer]
      split <;> exact .inl rfl
  | clock | freshId | sleep | exchange | note => exact .inl rfl

theorem served (clean : env.FailsClean) {r : Request} {a : r.Answer} {ms : Nat}
    (h : World.answer env r w = (some (a, ms), w')) : Served env w w' ⟨r, a⟩ := by
  cases r with
  | store call =>
      obtain ⟨reply, told, ends⟩ := answer_store h
      obtain ⟨b, rfl, same⟩ := Option.map_eq_some_iff.mp told.symm
      cases same
      cases ends with
      | refused effect store issued => exact .refused effect store issued
      | unacknowledged effect => exact absurd effect (clean _ _ _)
      | lost effect store issued => exact .lost effect store issued
      | reached answered issued => exact .reached answered issued
  | deliver mail =>
      simp only [answer] at h
      split at h
      · cases h
        exact .aside rfl rfl (Nat.le_refl _)
      · cases h
        exact .aside rfl rfl (Nat.le_refl _)
  | freshId =>
      cases h
      exact .aside rfl rfl (Nat.le_succ _)
  | clock | sleep | exchange | note =>
      cases congrArg Prod.snd h
      exact .aside rfl rfl (Nat.le_refl _)

/-- A process breaks down only where the environment makes it, and leaves the store as it is. -/
theorem broke {r : Request} (h : World.answer env r w = (none, w')) :
    (∃ m n, env.faults m n = some .crash) ∧ w'.store = w.store ∧ w'.issued = w.issued := by
  cases r with
  | store call =>
      obtain ⟨reply, told, ends⟩ := answer_store h
      cases Option.map_eq_none_iff.mp told.symm
      cases ends with
      | crashed effect store issued => exact ⟨⟨_, _, effect⟩, store, issued⟩
  | deliver mail =>
      simp only [answer] at h
      split at h <;> cases h
  | clock | freshId | sleep | exchange | note => cases h

end World

/-- What holds between a world and the one after an answer or a while later holds from one end of a run to the other. -/
theorem Process.run_follows {σ α : Type} [Store σ] {env : Environment} {R : World σ → World σ → Prop}
    (refl : ∀ w, R w w) (trans : ∀ {u v w}, R u v → R v w → R u w) (answers : ∀ r w, R w (World.answer env r w).2)
    (later : ∀ w ms, R w (w.later ms)) (p : Process α) (w : World σ) : R w (p.run env w).2 := by
  induction p generalizing w with
  | done a => exact refl w
  | ask r next ih =>
      have answered := answers r w
      simp only [run]
      split
      · rename_i broke
        rwa [broke] at answered
      · rename_i told
        rw [told] at answered
        exact trans answered (trans (later _ _) (ih _ _))

end WorkflowEngine
