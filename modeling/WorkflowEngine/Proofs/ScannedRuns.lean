/-
Module: WorkflowEngine.Proofs.ScannedRuns
Layer: Proofs
Purpose: Runs without an index.  A run whose walk finds each next node by scans of the workflow is the same as a run
  (`Executor.runAttached_eq_scanRun`), and it can be evaluated: the hashes of an index cannot.
Imports: WorkflowEngine.Execution.Executor, WorkflowEngine.Proofs.GraphIndex
Trusted boundary: none
Main exports: Executor.scanWalk, Executor.scanRun, Executor.runAttached_eq_scanRun
-/
import WorkflowEngine.Execution.Executor
import WorkflowEngine.Proofs.GraphIndex

namespace WorkflowEngine.Executor

variable (x : Executor)

/-- Walks from a node, and scans the workflow for each next one. -/
def scanWalk (execution : Execution) (w : Workflow) : (left taken : Nat) → Context → Option Node → Task Traversal
  | _, taken, _, none => return .ended taken false
  | 0, taken, _, some _ => return .ended taken false
  | left + 1, taken, context, some node => do
      match ← x.recordVisit execution node context with
      | .error _ => return .ended (taken + 1) true
      | .ok output =>
          if node.kind = .terminal then return .ended (taken + 1) false
          else
            let context := extend context node output
            scanWalk execution w left (taken + 1) context (w.scanNext? node context.conditionResult?)

/-- Loads the workflow and walks it with scans. -/
def scanDrive (execution : Execution) : Task Traversal := do
  match ← Task.ask (.getWorkflow execution.workflowId) with
  | .error .notFound => return .notBegun workflowNotFoundError
  | .error f => throw (.store f)
  | .ok row =>
      let nodes ← Task.call (.listNodes execution.workflowId)
      let edges ← Task.call (.listEdges execution.workflowId)
      let workflow := Workflow.ofRows row nodes edges
      match entry (.ofWorkflow workflow) with
      | .error defect => return .notBegun defect.message
      | .ok trigger => x.scanWalk execution workflow x.maxSteps 0 (.new execution.payload) (some trigger)

/-- Goes through the run of a pending execution with scans. -/
def scanRun (id : Uuid) : Task Summary := do
  let execution ← load id
  let clock ← start execution
  let outcome ← tryCatch (x.scanDrive execution) fun e => do
    let aborted := finalize execution.id clock true (some abortedError) finalizePauses
    tryCatch (discard aborted) fun _ => pure ()
    throw e
  let finished ← finalize execution.id clock outcome.stepFailed outcome.setupError finalizePauses
  return ⟨finished.status = .completed, execution.id, finished.durationMs, outcome.stepsExecuted⟩

theorem walk_eq_scanWalk (execution : Execution) (w : Workflow) (left taken : Nat) (context : Context)
    (node : Option Node) :
    x.walk execution (.ofWorkflow w) left taken context node = x.scanWalk execution w left taken context node := by
  induction left generalizing taken context node with
  | zero => cases node <;> rfl
  | succ left ih =>
      cases node with
      | none => rfl
      | some node =>
          rw [walk, scanWalk]
          congr 1
          funext result
          cases result with
          | error => rfl
          | ok output => simp only [ih, Graph.next?_ofWorkflow]

theorem drive_eq_scanDrive (execution : Execution) : x.drive execution = x.scanDrive execution := by
  simp only [drive, walk_eq_scanWalk]
  rfl

/-- It makes no difference to a run that its walk looks in an index. -/
theorem runAttached_eq_scanRun (id : Uuid) : x.runAttached id = x.scanRun id := by
  simp only [runAttached, runStarted, scanRun, drive_eq_scanDrive]

end WorkflowEngine.Executor
