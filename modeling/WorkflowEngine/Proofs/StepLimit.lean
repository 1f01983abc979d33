/-
Module: WorkflowEngine.Proofs.StepLimit
Layer: Proofs
Purpose: What the limit of steps does to a run.  A walk under a smaller limit is the beginning of the walk under a
  larger one (`Trail.take`), and whether a run fails is told by its workflow and by the steps that it took, never by
  the limit (`limit_truncates`).
Imports: WorkflowEngine.Proofs.DoubleStart, WorkflowEngine.Proofs.LegalWalk
Trusted boundary: none
Main exports: Executor.withLimit, MemoryStore.setupError?, Trail.take, Concluded.limited, limit_truncates
-/
import WorkflowEngine.Proofs.DoubleStart
import WorkflowEngine.Proofs.LegalWalk

namespace WorkflowEngine

/-! ## Walks under two limits -/

/-- A walk that may take fewer steps takes the same ones, as far as it may. -/
theorem Trail.take {g : Graph} {possible : Node → Context → Except String NodeOutput → Prop} {n : Nat}
    {context : Context} {node : Option Node} {visits : List Visit} (h : Trail g possible n context node visits)
    {m : Nat} (fewer : m ≤ n) : Trail g possible m context node (visits.take m) := by
  induction h generalizing m with
  | astray =>
      rw [List.take_nil]
      exact .astray
  | spent =>
      cases Nat.le_zero.mp fewer
      exact .spent
  | failed visited =>
      cases m with
      | zero => exact .spent
      | succ m =>
          rw [List.take_succ_cons, List.take_nil]
          exact .failed visited
  | arrived visited terminal =>
      cases m with
      | zero => exact .spent
      | succ m =>
          rw [List.take_succ_cons, List.take_nil]
          exact .arrived visited terminal
  | onward visited inner rest ih =>
      cases m with
      | zero => exact .spent
      | succ m => exact .onward visited inner (ih (Nat.le_of_succ_le_succ fewer))

/-- An executor with another limit of steps. -/
def Executor.withLimit (x : Executor) (limit : Nat) : Executor := { x with maxSteps := limit }

/-- Why a workflow cannot be walked: it is gone, or it has a defect. -/
def MemoryStore.setupError? (s : MemoryStore) (workflowId : Uuid) : Option String :=
  match s.workflow? workflowId with
  | none => some workflowNotFoundError
  | some workflow =>
      match Executor.entry (.ofWorkflow workflow) with
      | .ok _ => none
      | .error defect => some defect.message

variable {env : Environment} {first : MemoryStore} {x : Executor} {base : ExecutionRow} {e : Execution}

/-- A graph that was loaded is that of a stored workflow. -/
theorem Loadable.stored (faultless : env.Faultless) {id : Uuid} {g : Graph}
    (loaded : Loadable (Steady env first) id g) :
    ∃ workflow, first.workflow? id = some workflow ∧ g = .ofWorkflow workflow := by
  cases stored : first.workflow? id with
  | some workflow => exact ⟨workflow, rfl, loaded.eq_stored faultless stored⟩
  | none =>
      refine (loaded.not_gone faultless (.inl ?_)).elim
      simp only [MemoryStore.Replies, MemoryStore.found, Option.map_eq_none_iff.mp stored]

namespace Concluded

variable {visits : List Visit} {outcome : Traversal}

theorem stepFailed_eq {admits : Answers} (h : Concluded admits x e visits outcome) :
    outcome.stepFailed = visits.any Visit.failed := by
  cases h <;> rfl

/-- Whether a walk could begin hangs on the stored workflow alone. -/
theorem setupError_eq (faultless : env.Faultless) (h : Concluded (Steady env first) x e visits outcome) :
    outcome.setupError = first.setupError? e.workflowId := by
  cases h with
  | gone missing =>
      have absent : first.workflow? e.workflowId = none := by
        cases stored : first.workflow? e.workflowId with
        | none => rfl
        | some workflow => exact (Steady.not_gone faultless missing stored).elim
      simp only [MemoryStore.setupError?, absent, Traversal.notBegun]
  | defective loaded entry =>
      obtain ⟨workflow, stored, rfl⟩ := loaded.stored faultless
      simp only [MemoryStore.setupError?, stored, entry, Traversal.notBegun]
  | walked loaded entry trail =>
      obtain ⟨workflow, stored, rfl⟩ := loaded.stored faultless
      simp only [MemoryStore.setupError?, stored, entry, Traversal.ended]

/-- A run could also have been one with fewer steps. -/
theorem limited {n : Nat} (h : Concluded (Steady env first) (x.withLimit n) e visits outcome) {m : Nat}
    (fewer : m ≤ n) : ∃ outcome', Concluded (Steady env first) (x.withLimit m) e (visits.take m) outcome' := by
  cases h with
  | gone missing =>
      rw [List.take_nil]
      exact ⟨_, .gone missing⟩
  | defective loaded entry =>
      rw [List.take_nil]
      exact ⟨_, .defective loaded entry⟩
  | walked loaded entry trail => exact ⟨_, .walked loaded entry (trail.take fewer)⟩

end Concluded

/-! ## Runs under two limits -/

/-- Some visit failed if a step that records them did. -/
theorem Logged.any_failed_iff {id : Uuid} {visits : List Visit} {rows : List StepRow} (logged : Logged id visits rows) :
    visits.any Visit.failed = true ↔ ∃ row ∈ rows, row.status = StepStatus.failed.name := by
  rw [← not_iff_not, Bool.not_eq_true, logged.none_failed_iff]
  simp

/-- The state in which a run ends tells whether something failed. -/
theorem RunClock.finish_status (clock : RunClock) (stepFailed : Bool) (error : Option String) (now : Instant) :
    ((clock.finish stepFailed error now).status = ExecutionStatus.failed.name ↔ error ≠ none ∨ stepFailed = true) ∧
      ((clock.finish stepFailed error now).status = ExecutionStatus.completed.name ↔
        error = none ∧ stepFailed = false) := by
  cases error <;> cases stepFailed <;> simp [finish, ExecutionStatus.ofOutcome, ExecutionStatus.name]

/-- A run that could take no more than so many steps, next to what a run recorded that could take more.  It recorded
the same steps as far as it could, and it failed only if its workflow cannot be walked or one of these steps failed. -/
structure CutShort (limit : Nat) (setupError : Option String) (longer : List StepRow) (summary : Summary)
    (row : ExecutionRow) (log : List StepRow) : Prop where
  log_eq : log.map StepRow.timeless = (longer.take limit).map StepRow.timeless
  error : row.error = setupError
  failed : row.status = ExecutionStatus.failed.name ↔
    setupError ≠ none ∨ ∃ s ∈ longer.take limit, s.status = StepStatus.failed.name
  completed : row.status = ExecutionStatus.completed.name ↔
    setupError = none ∧ ∀ s ∈ longer.take limit, s.status ≠ StepStatus.failed.name
  success : summary.success = true ↔ row.status = ExecutionStatus.completed.name
  count : summary.stepsExecuted = log.length

/-- The limit of steps only truncates.  Of two runs of a pending execution, at different times and with different ids,
the one with the smaller limit records the first steps of the other, as many as it may.  It fails exactly if the
workflow cannot be walked or one of these steps failed, so that the limit alone never makes a run fail. -/
theorem limit_truncates (x : Executor) {w v : World MemoryStore} {m n : Nat} {text : String} (fewer : m ≤ n)
    (same : v.store = w.store) (there : w.store.executions.find? base.id = some base)
    (pending : base.status = ExecutionStatus.pending.name) (faultless : env.Faultless) (forgetful : env.Forgetful)
    (stateless : x.registry.Stateless) (named : Executor.readId text = .ok base.id) :
    let short := ((x.withLimit m).runNamed text).run.run env w
    let long := ((x.withLimit n).runNamed text).run.run env v
    ∃ summary row log summary' row' log',
      short.1 = some (.ok summary) ∧ short.2.store.Holds base.id (some row) (w.store.stepsOf base.id ++ log) ∧
      long.1 = some (.ok summary') ∧ long.2.store.Holds base.id (some row') (v.store.stepsOf base.id ++ log') ∧
      CutShort m (w.store.setupError? base.workflowId) log' summary row log := by
  intro short long
  obtain ⟨r, shortEnds, shortDone⟩ := (x.withLimit m).run_accomplished faultless there pending named
  obtain ⟨r', longEnds, longDone⟩ := (x.withLimit n).run_accomplished (w := v) faultless (same ▸ there) pending named
  cases shortDone with
  | @intro e clock now visits outcome rows read concluded logged holds =>
      cases longDone with
      | @intro e' clock' now' visits' outcome' rows' read' concluded' logged' holds' =>
          cases read.symm.trans read'
          rw [same] at concluded'
          obtain ⟨_, limited⟩ := concluded'.limited fewer
          obtain ⟨rfl, -⟩ := Concluded.unique (x := x.withLimit m) faultless forgetful stateless concluded limited
          have logged' : Logged base.id (visits'.take m) (rows'.take m) := List.forall₂_take m logged'
          have setup := concluded.setupError_eq faultless
          rw [ExecutionRow.toExecution_workflowId read] at setup
          refine ⟨_, _, rows, _, _, rows', shortEnds, holds, longEnds, holds', ?_⟩
          exact {
            log_eq := logged.timeless_eq logged'
            error := setup
            failed := by
              rw [← setup, ← logged'.any_failed_iff, ← concluded.stepFailed_eq]
              exact (clock.finish_status _ _ now).1
            completed := by
              rw [← setup, ← logged'.none_failed_iff, ← concluded.stepFailed_eq]
              exact (clock.finish_status _ _ now).2
            success := decide_eq_true_iff.trans ExecutionStatus.name_inj.symm
            count := concluded.stepsExecuted_eq.trans logged.length_eq }

/-- An executor of the built-in handlers that may take one step, next to one that may take five and begins later. -/
theorem limit_truncates_message :
    let x : Executor := ⟨.builtins 1000 1000, 0, 0⟩
    let later : World MemoryStore := { World.start messageStore with now := 7, issued := 3 }
    let short := ((x.withLimit 1).runNamed messageExecution.id.render).run.run .calm (.start messageStore)
    let long := ((x.withLimit 5).runNamed messageExecution.id.render).run.run .calm later
    ∃ summary row log summary' row' log',
      short.1 = some (.ok summary) ∧ short.2.store.Holds messageExecution.id (some row) log ∧
      long.1 = some (.ok summary') ∧ long.2.store.Holds messageExecution.id (some row') log' ∧
      CutShort 1 none log' summary row log := by
  have forgetful : Environment.calm.Forgetful := ⟨fun _ _ _ => rfl, fun _ _ _ => rfl⟩
  have setup : messageStore.setupError? .nil = none := by decide +kernel
  rw [← setup]
  exact limit_truncates (v := { World.start messageStore with now := 7, issued := 3 }) ⟨.builtins 1000 1000, 0, 0⟩
    (by decide) rfl messageStore_holds rfl Environment.calm_faultless forgetful
    (Registry.builtins_stateless 1000 1000) readId_message

end WorkflowEngine
