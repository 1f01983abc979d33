/-
Module: WorkflowEngine.Proofs.StepInputs
Layer: Proofs
Purpose: The inputs that the steps of a run record.  Whatever fails and whenever it does, the log of a run grows by the
  steps of a walk, as far as it came (`Executor.runAttached_logs`); the input of each of them lists the keys that the nodes
  before it have made visible, and no value (`inputs_list_visible_keys`).
Imports: WorkflowEngine.Proofs.ValidRuns, WorkflowEngine.Proofs.VisibleKeys
Trusted boundary: none
Main exports: Process.Logs, Executor.walk_logs, Executor.Walked, Executor.runAttached_logs, InputsListed,
  inputs_list_visible_keys
-/
import WorkflowEngine.Proofs.ValidRuns
import WorkflowEngine.Proofs.VisibleKeys

namespace WorkflowEngine

/-! ## The log of one execution -/

section Logs

variable {env : Environment} {id : Uuid} {α β : Type} {P : List StepRow → Prop} {w w' : World MemoryStore}

theorem MemoryStore.answer_steps (stamp : Stamp) {call : StoreCall} (other : call.method ≠ .insertStep)
    (s : MemoryStore) : (answer stamp call s).2.steps = s.steps := by
  cases call with
  | insertStep => exact absurd rfl other
  | createExecution | getExecution | getWorkflow | listNodes | listEdges | listSteps => rfl
  | markRunning id startedAt =>
      simp only [answer]
      split
      · rfl
      · split <;> rfl
  | finishExecution id finish =>
      simp only [answer]
      split
      · rfl
      · split <;> rfl

/-- What records no step leaves all logs as they are. -/
theorem Process.run_steps {p : Process α} (quiet : p.Avoids .insertStep) (w : World MemoryStore) :
    (p.run env w).2.store.steps = w.store.steps := by
  induction p generalizing w with
  | done a => rfl
  | ask r next ih =>
      have kept : (World.answer env r w).2.store.steps = w.store.steps := by
        rcases @World.answer_leaves _ _ env r w with same | ⟨call, stamp, rfl, reached⟩
        · rw [same]
        · rw [reached]
          exact MemoryStore.answer_steps stamp (by simpa [Request.method?] using quiet.1) w.store
      simp only [Process.run]
      cases told : World.answer env r w with
      | mk reply w' =>
          rw [told] at kept
          rcases reply with _ | ⟨a, ms⟩
          · exact kept
          · rw [← kept]
            exact ih a (quiet.2 a) (w'.later ms)

/-- A process adds rows to the log of an execution, of which something holds. -/
def Process.Logs (env : Environment) (id : Uuid) (P : List StepRow → Prop) (p : Process α) (w : World MemoryStore) :
    Prop :=
  ∃ rows, (p.run env w).2.store.stepsOf id = w.store.stepsOf id ++ rows ∧ P rows

theorem Process.logs_of_avoids {p : Process α} (quiet : p.Avoids .insertStep) (nothing : P []) :
    p.Logs env id P w := by
  refine ⟨[], ?_, nothing⟩
  rw [MemoryStore.stepsOf, run_steps quiet, List.append_nil]
  rfl

/-- What comes after a process and records no step adds nothing. -/
theorem Process.Logs.bind {p : Process α} {f : α → Process β} (logs : p.Logs env id P w)
    (quiet : ∀ a, (f a).Avoids .insertStep) : (p >>= f).Logs env id P w := by
  obtain ⟨rows, grown, holds⟩ := logs
  refine ⟨rows, ?_, holds⟩
  rw [← grown, Process.run_bind]
  cases ran : p.run env w with
  | mk result w' =>
      cases result with
      | none => rfl
      | some a => rw [MemoryStore.stepsOf, run_steps (quiet a)]; rfl

namespace Task

theorem logs_bind {t : Task α} {f : α → Task β} (logs : t.run.Logs env id P w)
    (quiet : ∀ a, (f a).run.Avoids .insertStep) : (t >>= f).run.Logs env id P w := by
  apply Process.Logs.bind logs
  intro result
  cases result with
  | ok a => exact quiet a
  | error e => trivial

theorem logs_tryCatch {t : Task α} {f : EngineError → Task α} (logs : t.run.Logs env id P w)
    (quiet : ∀ e, (f e).run.Avoids .insertStep) : (tryCatch t f).run.Logs env id P w := by
  apply Process.Logs.bind logs
  intro result
  cases result with
  | ok a => trivial
  | error e => exact quiet e

/-- After what records no step, all that is added is what the rest adds. -/
theorem logs_after {t : Task α} {f : α → Task β} (quiet : t.run.Avoids .insertStep) (nothing : P [])
    (follows : ∀ a w', t.run.run env w = (some (.ok a), w') → (f a).run.Logs env id P w') :
    (t >>= f).run.Logs env id P w := by
  cases ran : t.run.run env w with
  | mk result w' =>
      have kept : w'.store.stepsOf id = w.store.stepsOf id := by
        have steps := @Process.run_steps env _ _ quiet w
        rw [ran] at steps
        rw [MemoryStore.stepsOf, steps]
        rfl
      rcases result with _ | e | a
      · exact ⟨[], by rw [run_bind_of_none ran, kept, List.append_nil], nothing⟩
      · exact ⟨[], by rw [run_bind_of_error ran, kept, List.append_nil], nothing⟩
      · obtain ⟨rows, grown, holds⟩ := follows a w' ran
        exact ⟨rows, by rw [run_bind_of_ok ran, grown, kept], holds⟩

/-- A call to the store ends as the call is answered, or breaks down with it. -/
theorem run_ask_eq (c : StoreCall) (w : World MemoryStore) :
    (ask c).run.run env w = ((World.call env c w).1.map .ok, (World.call env c w).2) := by
  cases called : World.call env c w with
  | mk reply v =>
      cases reply with
      | none =>
          have asked : World.answer env (.store c) w = (none, v) := by
            simp only [World.answer, called]
            rfl
          change Process.run env (.ask (.store c) _) w = _
          simp only [Process.run, asked]
          rfl
      | some reply => exact run_ask called

theorem run_call_eq (c : StoreCall) (w : World MemoryStore) :
    (call c).run.run env w = ((World.call env c w).1.map (·.mapError .store), (World.call env c w).2) := by
  have asked := @run_ask_eq env c w
  cases called : World.call env c w with
  | mk reply v =>
      cases reply with
      | none =>
          rw [called] at asked
          exact run_bind_of_none asked
      | some reply => exact run_call called

theorem run_call_then (c : StoreCall) (b : β) (w : World MemoryStore) :
    (do let _ ← call c; return b : Task β).run.run env w =
      ((World.call env c w).1.map fun reply => (reply.mapError .store).map fun _ => b, (World.call env c w).2) := by
  have called := @run_call_eq env c w
  cases told : World.call env c w with
  | mk reply v =>
      rw [told] at called
      rcases reply with _ | f | a
      · exact run_bind_of_none called
      · exact run_bind_of_error called
      · exact run_bind_of_ok called

/-- What a caller is told that it asked for is what is stored. -/
theorem call_ok {c : StoreCall} {a : c.Answer} (read : c.method ≠ .markRunning)
    (told : (World.call env c w).1 = some (.ok a)) :
    (MemoryStore.answer ⟨env.ids w.issued, w.now⟩ c w.store).1 = .ok a := by
  rcases @World.call_store _ _ env w c with ⟨-, lost⟩ | ⟨-, answered⟩
  · exact absurd (lost a told) read
  · exact answered a told

/-- What a run goes on with is what is stored. -/
theorem ask_told {c : StoreCall} {a : c.Answer} (read : c.method ≠ .markRunning)
    (ran : (ask c).run.run env w = (some (.ok (.ok a)), w')) :
    (MemoryStore.answer ⟨env.ids w.issued, w.now⟩ c w.store).1 = .ok a := by
  apply call_ok read
  rw [run_ask_eq, Prod.mk.injEq, Option.map_eq_some_iff] at ran
  obtain ⟨⟨reply, told, same⟩, -⟩ := ran
  cases same
  exact told

theorem call_told {c : StoreCall} {a : c.Answer} (read : c.method ≠ .markRunning)
    (ran : (call c).run.run env w = (some (.ok a), w')) :
    (MemoryStore.answer ⟨env.ids w.issued, w.now⟩ c w.store).1 = .ok a := by
  apply call_ok read
  rw [run_call_eq, Prod.mk.injEq, Option.map_eq_some_iff] at ran
  obtain ⟨⟨reply, told, same⟩, -⟩ := ran
  cases reply with
  | error f => cases same
  | ok b =>
      cases same
      exact told

theorem run_lift {p : Process α} {a : α} (ran : p.run env w = (some a, w')) :
    (ExceptT.lift p : Task α).run.run env w = (some (.ok a), w') := by
  change (p >>= fun a => Process.done (Except.ok a : Except EngineError α)).run env w = _
  rw [Process.run_bind, ran]
  rfl

theorem run_lift_none {p : Process α} (ran : p.run env w = (none, w')) :
    (ExceptT.lift p : Task α).run.run env w = (none, w') := by
  change (p >>= fun a => Process.done (Except.ok a : Except EngineError α)).run env w = _
  rw [Process.run_bind, ran]

end Task

/-- A step that is to be recorded is added at the end of the log, or it is not, and then the caller is not told that
it is. -/
theorem World.call_insertStep (step : StepRow) (w : World MemoryStore) :
    ((World.call env (.insertStep step) w).2.store = w.store ∧
        ∀ a, (World.call env (.insertStep step) w).1 ≠ some (.ok a)) ∨
      (World.call env (.insertStep step) w).2.store.stepsOf step.executionId =
        w.store.stepsOf step.executionId ++ [step] := by
  rcases @World.call_store _ _ env w (.insertStep step) with ⟨kept, lost⟩ | ⟨reached, answered⟩
  · refine .inl ⟨kept, ?_⟩
    intro a told
    cases lost a told
  · rw [reached]
    simp only [Store.answer, MemoryStore.answer] at answered ⊢
    cases found : w.store.executions.find? step.executionId with
    | none =>
        simp only [found] at answered ⊢
        refine .inl ⟨trivial, ?_⟩
        intro a told
        cases answered a told
    | some row =>
        right
        simp [MemoryStore.stepsOf]

/-- A process can end as it does. -/
theorem Process.yields_of_run {p : Process α} {a : α} (ran : p.run env w = (some a, w')) : p.Yields .any a := by
  induction p generalizing w with
  | done b =>
      cases ran
      rfl
  | ask r next ih =>
      simp only [Process.run] at ran
      cases told : World.answer env r w with
      | mk reply v =>
          rw [told] at ran
          rcases reply with _ | ⟨b, ms⟩
          · cases ran
          · exact ⟨b, trivial, ih b ran⟩

end Logs

/-! ## Walks -/

namespace Executor

variable {env : Environment} {x : Executor} {e : Execution}

/-- A step is added at the end of the log, or the run cannot go on; it may be added and the run not go on. -/
theorem insertStep_run (step : StepRow) (result : Except String NodeOutput) (w : World MemoryStore) :
    let ran := (do Task.call (.insertStep step); return result : Task (Except String NodeOutput)).run.run env w
    (ran.2.store.stepsOf step.executionId = w.store.stepsOf step.executionId ∧ ∀ other, ran.1 ≠ some (.ok other)) ∨
      (ran.2.store.stepsOf step.executionId = w.store.stepsOf step.executionId ++ [step] ∧
        ∀ other, ran.1 = some (.ok other) → other = result) := by
  intro ran
  have ended : ran = _ := Task.run_call_then (.insertStep step) result w
  rw [ended]
  rcases @World.call_insertStep env step w with ⟨kept, never⟩ | added
  · refine .inl ⟨by rw [kept], ?_⟩
    intro other told
    obtain ⟨reply, called, same⟩ := Option.map_eq_some_iff.mp told
    cases reply with
    | error f => cases same
    | ok a => exact never a called
  · refine .inr ⟨added, ?_⟩
    intro other told
    obtain ⟨reply, called, same⟩ := Option.map_eq_some_iff.mp told
    cases reply with
    | error f => cases same
    | ok a =>
        cases same
        rfl

/-- A visit is recorded at the end of the log, or the run cannot go on. -/
theorem recordVisit_run (node : Node) (context : Context) (w : World MemoryStore) :
    let ran := (x.recordVisit e node context).run.run env w
    (ran.2.store.stepsOf e.id = w.store.stepsOf e.id ∧ ∀ result, ran.1 ≠ some (.ok result)) ∨
      ∃ result row, Possible .any x e node context result ∧ Visit.Recorded e.id ⟨node, context, result⟩ row ∧
        ran.2.store.stepsOf e.id = w.store.stepsOf e.id ++ [row] ∧
        ∀ other, ran.1 = some (.ok other) → other = result := by
  intro ran
  have clock (v : World MemoryStore) : (Task.request .clock).run.run env v = (some (.ok v.now), v.later 0) := rfl
  have fresh (v : World MemoryStore) : (Task.request .freshId).run.run env v =
      (some (.ok (env.ids v.issued)), ({ v with issued := v.issued + 1 } : World MemoryStore).later 0) := rfl
  have begun : ran = _ := Task.run_bind_of_ok (clock w)
  have quiet : ((x.visit e node context).run env (w.later 0)).2.store.steps = w.store.steps :=
    Process.run_steps (visit_aside node context).avoids (w.later 0)
  cases visited : (x.visit e node context).run env (w.later 0) with
  | mk result v =>
      rw [visited] at quiet
      have kept : v.store.stepsOf e.id = w.store.stepsOf e.id := by
        rw [MemoryStore.stepsOf, quiet]
        rfl
      cases result with
      | none =>
          rw [Task.run_bind_of_none (Task.run_lift_none visited)] at begun
          rw [begun]
          exact .inl ⟨kept, by rintro _ ⟨⟩⟩
      | some result =>
          rw [Task.run_bind_of_ok (Task.run_lift visited), Task.run_bind_of_ok (clock v),
            Task.run_bind_of_ok (fresh _)] at begun
          rw [begun, ← kept]
          have recorded : Visit.Recorded e.id ⟨node, context, result⟩
              (stepOf (env.ids v.issued) e.id node context w.now v.now result).row := ⟨_, _, _, rfl⟩
          have ended := @insertStep_run env (stepOf (env.ids v.issued) e.id node context w.now v.now result).row result
            (({ v.later 0 with issued := v.issued + 1 } : World MemoryStore).later 0)
          simp only [recorded.executionId_eq] at ended
          refine ended.imp id ?_
          rintro ⟨added, same⟩
          exact ⟨result, _, Process.yields_of_run visited, recorded, added, same⟩

/-- Rows record the visits of a walk, as far as it came. -/
def Tracks (x : Executor) (e : Execution) (g : Graph) (context : Context) (start : Option Node) (rows : List StepRow) :
    Prop :=
  ∃ visits, Trail g (Possible .any x e) visits.length context start visits ∧ Logged e.id visits rows

theorem tracks_nil (g : Graph) (context : Context) (start : Option Node) : Tracks x e g context start [] := by
  cases start with
  | none => exact ⟨[], .astray, .nil⟩
  | some node => exact ⟨[], .spent, .nil⟩

/-- A visit after which the run does not go on is all that is tracked. -/
theorem tracks_single (g : Graph) {context : Context} {node : Node} {result : Except String NodeOutput} {row : StepRow}
    (possible : Possible .any x e node context result) (recorded : Visit.Recorded e.id ⟨node, context, result⟩ row) :
    Tracks x e g context (some node) [row] := by
  refine ⟨[⟨node, context, result⟩], ?_, .cons recorded .nil⟩
  cases result with
  | error message => exact .failed possible
  | ok output =>
      by_cases terminal : node.kind = .terminal
      · exact .arrived possible terminal
      · refine .onward possible terminal ?_
        cases g.next? node (extend context node output).conditionResult? with
        | none => exact .astray
        | some next => exact .spent

/-- However calls to the store come out, the steps that a walk adds to the log of its execution are those of a trail. -/
theorem walk_logs (g : Graph) (left taken : Nat) (context : Context) (start : Option Node) (w : World MemoryStore) :
    (x.walk e g left taken context start).run.Logs env e.id (Tracks x e g context start) w := by
  induction left generalizing taken context start w with
  | zero => cases start <;> exact Process.logs_of_avoids trivial (tracks_nil g context _)
  | succ left ih =>
      cases start with
      | none => exact Process.logs_of_avoids trivial (tracks_nil g context _)
      | some node =>
          have visit := @recordVisit_run env x e node context w
          rw [walk]
          cases ran : (x.recordVisit e node context).run.run env w with
          | mk result v =>
              rw [ran] at visit
              rcases visit with ⟨kept, never⟩ | ⟨told, row, possible, recorded, added, same⟩
              · have nothing : v.store.stepsOf e.id = w.store.stepsOf e.id ++ [] := by rw [kept, List.append_nil]
                rcases result with _ | err | told
                · exact ⟨[], by rw [Task.run_bind_of_none ran, nothing], tracks_nil g context _⟩
                · exact ⟨[], by rw [Task.run_bind_of_error ran, nothing], tracks_nil g context _⟩
                · exact absurd rfl (never told)
              · -- The step may be in the log although the run is told that it is not; then the walk ends with it.
                rcases result with _ | err | told'
                · exact ⟨[row], by rw [Task.run_bind_of_none ran, added], tracks_single g possible recorded⟩
                · exact ⟨[row], by rw [Task.run_bind_of_error ran, added], tracks_single g possible recorded⟩
                · cases same told' rfl
                  unfold Process.Logs
                  rw [Task.run_bind_of_ok ran]
                  cases told with
                  | error message => exact ⟨[row], added, tracks_single g possible recorded⟩
                  | ok output =>
                      simp only
                      split
                      · exact ⟨[row], added, tracks_single g possible recorded⟩
                      · rename_i inner
                        obtain ⟨rows, grown, visits, trail, logged⟩ := ih (taken + 1) (extend context node output)
                          (g.next? node (extend context node output).conditionResult?) v
                        refine ⟨row :: rows, ?_, _ :: visits, .onward possible inner trail, .cons recorded logged⟩
                        rw [grown, added, List.append_assoc, List.singleton_append]

end Executor

/-! ## Runs -/

theorem Process.run_workflow? {env : Environment} {α : Type} (p : Process α) (w : World MemoryStore) (id : Uuid) :
    (p.run env w).2.store.workflow? id = w.store.workflow? id :=
  (p.run_workflows w).workflow?_eq id

namespace Executor

variable {env : Environment} {x : Executor} {e : Execution} {base : ExecutionRow} {s : MemoryStore}
  {w : World MemoryStore}

/-- The visits of a run of a stored execution, as far as it came: none if the walk did not begin, and else those of a
walk through the stored workflow. -/
inductive Walked (x : Executor) (s : MemoryStore) (base : ExecutionRow) : List Visit → Prop where
  | unbegun : Walked x s base []
  | begun {e : Execution} {workflow : Workflow} {trigger : Node} {visits : List Visit} (read : base.toExecution = .ok e)
      (stored : s.workflow? e.workflowId = some workflow) (entered : entry (.ofWorkflow workflow) = .ok trigger)
      (trail : Trail (.ofWorkflow workflow) (Possible .any x e) visits.length (.new e.payload) (some trigger) visits) :
      Walked x s base visits

/-- Rows record the visits of a run. -/
def Records (x : Executor) (s : MemoryStore) (base : ExecutionRow) (rows : List StepRow) : Prop :=
  ∃ visits, x.Walked s base visits ∧ Logged base.id visits rows

theorem records_nil : Records x s base [] := ⟨[], .unbegun, .nil⟩

/-- A workflow that is told in three answers is the one that was stored before the first of them. -/
theorem workflow?_told {id : Uuid} {w₁ w₂ w₃ : World MemoryStore} {row : WorkflowRow} {nodes : List NodeRow}
    {edges : List EdgeRow} (asked : (Task.ask (.getWorkflow id)).run.run env w = (some (.ok (.ok row)), w₁))
    (listed : (Task.call (.listNodes id)).run.run env w₁ = (some (.ok nodes), w₂))
    (listed' : (Task.call (.listEdges id)).run.run env w₂ = (some (.ok edges), w₃)) :
    w.store.workflow? id = some (.ofRows row nodes edges) := by
  obtain ⟨-, nodes₁, edges₁⟩ := @Process.run_workflows env _ (Task.ask (.getWorkflow id)).run w
  obtain ⟨-, -, edges₂⟩ := @Process.run_workflows env _ (Task.call (.listNodes id)).run w₁
  rw [asked] at nodes₁ edges₁
  rw [listed, edges₁] at edges₂
  have found : MemoryStore.found (w.store.workflows.find? id) = .ok row :=
    Task.ask_told (by simp [StoreCall.method]) asked
  have stored : Except.ok ((w₁.store.nodes.find? id).getD []) = (.ok nodes : Except StoreFault _) :=
    Task.call_told (by simp [StoreCall.method]) listed
  have stored' : Except.ok ((w₂.store.edges.find? id).getD []) = (.ok edges : Except StoreFault _) :=
    Task.call_told (by simp [StoreCall.method]) listed'
  cases there : w.store.workflows.find? id with
  | none =>
      rw [there] at found
      cases found
  | some other =>
      rw [there] at found
      rw [nodes₁] at stored
      rw [edges₂] at stored'
      cases found
      cases stored
      cases stored'
      rw [MemoryStore.workflow?, there]
      rfl

theorem drive_logs (read : base.toExecution = .ok e)
    (kept : w.store.workflow? e.workflowId = s.workflow? e.workflowId) :
    (x.drive e).run.Logs env base.id (x.Records s base) w := by
  rw [drive]
  apply Task.logs_after (Task.avoids_ask (by simp [StoreCall.method])) records_nil
  intro reply w₁ asked
  rcases reply with f | row
  · cases f <;> exact Process.logs_of_avoids trivial records_nil
  · apply Task.logs_after (Task.avoids_call (by simp [StoreCall.method])) records_nil
    intro nodes w₂ listed
    apply Task.logs_after (Task.avoids_call (by simp [StoreCall.method])) records_nil
    intro edges w₃ listed'
    have stored := workflow?_told asked listed listed'
    rw [kept] at stored
    simp only
    split
    · exact Process.logs_of_avoids trivial records_nil
    · rename_i trigger entered
      obtain ⟨rows, grown, visits, trail, logged⟩ := @walk_logs env x e (.ofWorkflow (.ofRows row nodes edges))
        x.maxSteps 0 (.new e.payload) (some trigger) w₃
      rw [ExecutionRow.toExecution_id read] at grown logged
      exact ⟨rows, grown, visits, .begun read stored entered trail, logged⟩

/-- An execution that is loaded is the one that is stored. -/
theorem load_told {w' : World MemoryStore} (there : w.store.executions.find? base.id = some base)
    (loaded : (load base.id).run.run env w = (some (.ok e), w')) : base.toExecution = .ok e := by
  rw [load] at loaded
  cases asked : (Task.ask (.getExecution base.id)).run.run env w with
  | mk result v =>
      rcases result with _ | err | reply
      · rw [Task.run_bind_of_none asked] at loaded
        cases loaded
      · rw [Task.run_bind_of_error asked] at loaded
        cases loaded
      · rw [Task.run_bind_of_ok asked] at loaded
        rcases reply with f | row
        · cases f <;> cases loaded
        · have found : MemoryStore.found (w.store.executions.find? base.id) = .ok row :=
            Task.ask_told (by simp [StoreCall.method]) asked
          rw [there] at found
          cases found
          cases said : base.toExecution with
          | error reason =>
              simp only [said] at loaded
              cases loaded
          | ok other =>
              simp only [said] at loaded
              cases loaded
              rfl

theorem runStarted_logs (read : base.toExecution = .ok e)
    (kept : w.store.workflow? e.workflowId = s.workflow? e.workflowId) (clock : RunClock) :
    (x.runStarted e clock).run.Logs env base.id (x.Records s base) w := by
  have quiet (stepFailed : Bool) (error : Option String) :
      (finalize e.id clock stepFailed error finalizePauses).run.Avoids .insertStep := finalize_avoids (by decide) ..
  apply Task.logs_bind
  · apply Task.logs_tryCatch (drive_logs read kept)
    intro err
    apply Task.avoids_bind
    · exact Task.avoids_tryCatch (Task.avoids_bind (quiet ..) fun _ => trivial) fun _ => trivial
    · exact fun _ => trivial
  · exact fun outcome => Task.avoids_bind (quiet ..) fun _ => trivial

/-- Whatever fails and whenever it does, a run adds to the log of its execution what records the visits of a walk, as
far as it came. -/
theorem runAttached_logs (x : Executor) (env : Environment) (there : w.store.executions.find? base.id = some base) :
    (x.runAttached base.id).run.Logs env base.id (x.Records w.store base) w := by
  apply Task.logs_after (load_avoids (by decide) _) records_nil
  intro e loaded ran
  apply Task.logs_after (start_avoids (by decide) _) records_nil
  intro clock started ran'
  have read := load_told there ran
  have kept := @Process.run_workflow? env _ (load base.id).run w e.workflowId
  have keeps := @Process.run_workflow? env _ (start e).run loaded e.workflowId
  rw [ran] at kept
  rw [ran', kept] at keeps
  exact runStarted_logs read keeps clock

end Executor

/-! ## Inputs -/

section Inputs

variable {x : Executor} {s : MemoryStore} {base : ExecutionRow} {visits : List Visit} {rows : List StepRow} {id : Uuid}

theorem Logged.visit_at (logged : Logged id visits rows) {k : Nat} {row : StepRow} (at_k : rows[k]? = some row) :
    ∃ v, visits[k]? = some v ∧ v.Recorded id row := by
  induction logged generalizing k with
  | nil => simp at at_k
  | @cons v row' visits rows recorded rest ih =>
      cases k with
      | zero =>
          cases at_k
          exact ⟨v, rfl, recorded⟩
      | succ k => exact ih at_k

/-- A graph that can be walked begins with one of its nodes, and none of them has a reserved id. -/
theorem Executor.entry_told {workflow : Workflow} {trigger : Node}
    (entered : entry (.ofWorkflow workflow) = .ok trigger) :
    trigger ∈ workflow.nodes ∧ ∀ n ∈ workflow.nodes, n.id ∉ reservedKeys := by
  obtain ⟨⟨⟩, free, one⟩ := Except.of_bind entered
  constructor
  · have only : trigger ∈ workflow.nodes.filter fun n => n.kind = .trigger := by simp [Graph.trigger_ok one]
    exact (List.mem_filter.mp only).1
  · intro n member reserved
    unfold Graph.checkReserved at free
    split at free
    · cases free
    · rename_i none
      apply List.find?_eq_none.mp none n member
      simpa using reserved

namespace Executor.Walked

/-- No node that a run visits has a reserved id. -/
theorem unreserved (walked : x.Walked s base visits) : ∀ v ∈ visits, v.node.id ∉ reservedKeys := by
  cases walked with
  | unbegun => exact List.forall_mem_nil _
  | @begun e workflow trigger visits read stored entered trail =>
      obtain ⟨known, free⟩ := entry_told entered
      have visited := trail.reached trigger.id fun n begins => by
        cases begins
        exact ⟨known, List.mem_of_head? (Graph.reachable_head? _ _)⟩
      exact fun v visit => free v.node (visited v visit).1

theorem each_possible (walked : x.Walked s base visits) :
    ∀ v ∈ visits, ∃ e, Possible .any x e v.node v.context v.result := by
  cases walked with
  | unbegun => exact List.forall_mem_nil _
  | begun read stored entered trail => exact fun v visit => ⟨_, trail.each_possible v visit⟩

/-- Every visit of a run sees what the visits before it show. -/
theorem shows (walked : x.Walked s base visits) {k : Nat} {v : Visit} (at_k : visits[k]? = some v) :
    v.context.Shows base.payload (visits.take k) := by
  have free := walked.unreserved
  cases walked with
  | unbegun => simp at at_k
  | @begun e workflow trigger visits read stored entered trail =>
      rw [← ExecutionRow.toExecution_payload read]
      exact trail.shows free (Context.shows_new e.payload) k v at_k

end Executor.Walked

/-- The inputs of the steps of a run, and the contexts behind them.  The input of a step is one list of keys that
follows from the nodes visited before; no value that a node put out, and nothing of the payload, has a part in it. -/
structure InputsListed (payload : Json) (visits : List Visit) (rows : List StepRow) : Prop where
  input : ∀ (k : Nat) (row : StepRow), rows[k]? = some row →
    row.input = .object [("context_keys", .list ((visibleKeys ((visits.take k).map (·.node))).map .text))]
  increasing : ∀ k : Nat, (visibleKeys ((visits.take k).map (·.node))).Pairwise (· < ·)
  listed : ∀ (k : Nat) (key : String), key ∈ visibleKeys ((visits.take k).map (·.node)) ↔
    key = payloadKey ∨ (∃ v ∈ visits.take k, v.node.id = key) ∨
      key = conditionResultKey ∧ ∃ v ∈ visits.take k, v.node.kind = .condition
  /-- No node has the key of results as its id, so that key stands for results only. -/
  results : ∀ k : Nat, conditionResultKey ∈ visibleKeys ((visits.take k).map (·.node)) ↔
    ∃ v ∈ visits.take k, v.node.kind = .condition
  sees : ∀ (k : Nat) (v : Visit), visits[k]? = some v → v.context.Shows payload (visits.take k)
  leaves : ∀ (k : Nat) (v : Visit) (output : NodeOutput), visits[k]? = some v → v.result = .ok output →
    (Executor.extend v.context v.node output).Shows payload (visits.take (k + 1))
  /-- The results that are shown are those of conditions, one for each. -/
  decided : ∀ v ∈ visits, v.verdict?.isSome = true ↔ v.node.kind = .condition

theorem Executor.Walked.inputsListed (walked : x.Walked s base visits) (logged : Logged id visits rows) :
    InputsListed base.payload visits rows where
  input k row at_k := by
    obtain ⟨v, visited, recorded⟩ := logged.visit_at at_k
    rw [recorded.input_eq, Context.summary, (walked.shows visited).keys]
  increasing k := visibleKeys_increasing _
  listed k key := by
    rw [mem_visibleKeys]
    simp only [List.mem_map, exists_exists_and_eq_and]
  results k := by
    rw [conditionResultKey_mem_visibleKeys]
    · simp only [List.mem_map, exists_exists_and_eq_and]
    · rw [List.forall_mem_map]
      exact fun v earlier => walked.unreserved v (List.mem_of_mem_take earlier)
  sees k v at_k := walked.shows at_k
  leaves k v output at_k result := by
    obtain ⟨node, context, result'⟩ := v
    cases result
    obtain ⟨e, possible⟩ := walked.each_possible _ (List.mem_of_getElem? at_k)
    have shown := (walked.shows at_k).extend (walked.unreserved _ (List.mem_of_getElem? at_k)) possible
    rwa [List.take_add_one, at_k]
  decided v member := by
    obtain ⟨e, possible⟩ := walked.each_possible v member
    exact possible.verdict

end Inputs

/-- The steps that a run adds to the log of its execution record visits of a walk through the stored workflow, as far
as the walk came, whatever handlers do, however the outside behaves and whichever calls to the store fail.  The input
of each of them lists the keys that the nodes before it have made visible, in order and each of them once, and nothing
else; all along, nodes see the payload as it was given and the result of the latest condition. -/
theorem inputs_list_visible_keys (x : Executor) (env : Environment) (w : World MemoryStore) {base : ExecutionRow}
    (there : w.store.executions.find? base.id = some base) :
    ∃ visits rows,
      ((x.run base.id).run.run env w).2.store.stepsOf base.id = w.store.stepsOf base.id ++ rows ∧
      Logged base.id visits rows ∧ x.Walked w.store base visits ∧ InputsListed base.payload visits rows := by
  obtain ⟨rows, grown, visits, walked, logged⟩ := x.runAttached_logs env there
  rw [← congrArg Prod.snd (x.run_eq env base.id w)] at grown
  exact ⟨visits, rows, grown, logged, walked, walked.inputsListed logged⟩

section Branch

/-- Where a walk through the workflow that branches begins. -/
def branchTrigger : Node := ⟨"start", .trigger, none, []⟩

/-- Where it branches. -/
def branchCondition : Node := ⟨"check", .condition, none, [("condition", .text "true")]⟩

/-- Where it ends. -/
def branchEnd : Node := ⟨"stop", .terminal, none, []⟩

theorem branchRows_entry : Executor.entry (.ofWorkflow branchRows.toWorkflow) = .ok branchTrigger := rfl

theorem branchStore_workflow? {e : Execution} (read : messageExecution.toExecution = .ok e) :
    branchStore.workflow? e.workflowId = some branchRows.toWorkflow := by
  rw [ExecutionRow.toExecution_workflowId read]
  rfl

theorem branchTrigger_next? (result : Option Bool) :
    (Graph.ofWorkflow branchRows.toWorkflow).next? branchTrigger result = some branchCondition := by
  simp only [Graph.next?, Graph.edgeFrom?, Graph.edgesFrom_ofWorkflow, Graph.node?_ofWorkflow]
  rfl

theorem branchCondition_next? :
    (Graph.ofWorkflow branchRows.toWorkflow).next? branchCondition (some true) = some branchEnd := by
  simp only [Graph.next?, Graph.edgeFrom?, Graph.handled?, Graph.edgesFrom_ofWorkflow, Graph.node?_ofWorkflow]
  rfl

/-- A walk that may take three steps goes through the condition to the end. -/
theorem branch_trail {admits : Answers} {x : Executor} {e : Execution} {left : Nat} {context : Context}
    {visits : List Visit} (trail : Trail (.ofWorkflow branchRows.toWorkflow) (Executor.Possible admits x e) (left + 3)
      context (some branchTrigger) visits) :
    visits.map (·.node) = [branchTrigger, branchCondition, branchEnd] := by
  cases trail with
  | failed visited => exact absurd rfl visited.not_failed.2
  | arrived visited terminal => cases terminal
  | @onward _ _ _ begun _ visited inner rest =>
      rw [branchTrigger_next?] at rest
      cases rest with
      | failed visited => exact absurd rfl visited.not_failed.1
      | arrived visited terminal => cases terminal
      | @onward _ _ _ output _ visited inner rest =>
          have holds : (Executor.extend (Executor.extend context branchTrigger begun) branchCondition
              output).conditionResult? = some true := by
            cases visited.putsOut with
            | trigger kind => cases kind
            | other notCondition => exact absurd rfl notCondition
            | condition => exact Context.conditionResult?_withConditionResult _ _
          rw [holds, branchCondition_next?] at rest
          cases rest with
          | failed visited => cases visited
          | arrived visited terminal => rfl
          | onward visited inner rest => exact absurd rfl inner

end Branch

/-- The run of that workflow records three inputs; the last of them has the key of results in it. -/
theorem inputs_list_visible_keys_branch :
    let x : Executor := ⟨.builtins 1000 1000, 5, 0⟩
    let ran := (x.run messageExecution.id).run.run .calm (.start branchStore)
    (ran.2.store.stepsOf messageExecution.id).map (·.input) =
      [.object [("context_keys", .list [.text "trigger_data"])],
        .object [("context_keys", .list [.text "start", .text "trigger_data"])],
        .object [("context_keys", .list [.text "check", .text "condition_result", .text "start",
          .text "trigger_data"])]] := by
  intro x ran
  have there : branchStore.executions.find? messageExecution.id = some messageExecution := Table.find?_put_self ..
  obtain ⟨visits, rows, grown, logged, walked, listed⟩ := inputs_list_visible_keys x .calm (.start branchStore) there
  have all : ran.2.store.stepsOf messageExecution.id = rows := grown
  have three : rows.length = 3 := by
    obtain ⟨r, result, accomplished⟩ :=
      x.run_accomplished (w := .start branchStore) Environment.calm_faultless there rfl readId_message
    rw [Executor.runNamed_of_readId readId_message] at accomplished
    cases accomplished with
    | @intro e clock now visits outcome rows' read concluded logged holds =>
        have same : rows = rows' := all.symm.trans holds.log
        rw [same, ← logged.length_eq]
        have stored := branchStore_workflow? read
        obtain ⟨-, trail⟩ := concluded.walks Environment.calm_faultless stored branchRows_entry
        rw [← List.length_map, branch_trail trail]
        rfl
  have nodes : visits.map (·.node) = [branchTrigger, branchCondition, branchEnd] := by
    rw [← logged.length_eq] at three
    cases walked with
    | unbegun => cases three
    | begun read stored entered trail =>
        cases stored.symm.trans (branchStore_workflow? read)
        cases entered.symm.trans branchRows_entry
        rw [three] at trail
        exact branch_trail trail
  obtain ⟨first, second, third, rfl⟩ := List.length_eq_three.mp three
  have keys (k : Nat) : visibleKeys ((visits.take k).map (·.node)) =
      visibleKeys ([branchTrigger, branchCondition, branchEnd].take k) := by
    rw [List.map_take, nodes]
  rw [all, List.map_cons, List.map_cons, List.map_cons, listed.input 0 first rfl, listed.input 1 second rfl,
    listed.input 2 third rfl, keys, keys, keys]
  rfl

end WorkflowEngine
