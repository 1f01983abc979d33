/-
Module: WorkflowEngine.Execution.Executor
Layer: Execution
Purpose: Running executions: the walk through the graph and the requests of callers.
Imports: WorkflowEngine.Action.Handler, WorkflowEngine.Condition.Expression,
  WorkflowEngine.Execution.Lifecycle, WorkflowEngine.Execution.Output, WorkflowEngine.Workflow.Validation
Trusted boundary: none
Main exports: Executor, Executor.create, Executor.runAttached, Executor.run, Executor.runNamed, Executor.get,
  Executor.steps
-/
import WorkflowEngine.Action.Handler
import WorkflowEngine.Condition.Expression
import WorkflowEngine.Execution.Lifecycle
import WorkflowEngine.Execution.Output
import WorkflowEngine.Workflow.Validation

/-!
# The executor

A run loads its execution, starts it, loads the workflow and walks its graph node by node.  Each visit is
recorded as a step before the next one begins.  The walk stops at a terminal node, after a failed step, where
no edge leads on, or when the limit of steps is reached; then the execution is ended.

A failed step, or a workflow that cannot be walked, makes a run that failed and not an error.  When the store
fails in the middle of a run, the execution is ended as failed if that is still possible, and the run is an
error.

Whoever asks for a run waits for a task that goes through it.  The run goes on when nobody waits for it any more.
-/

namespace WorkflowEngine

/-- What a step records when its handler breaks down. -/
def unexpectedNodeError : String := "Unexpected error while executing node"

/-- What an execution records when the store failed in the middle of its run. -/
def abortedError : String := "Execution aborted due to an internal error"

/-- What an execution records when its workflow is gone. -/
def workflowNotFoundError : String := "Workflow not found"

/-- What runs executions: handlers and limits. -/
structure Executor where
  registry : Registry
  /-- The most nodes that a run may visit. -/
  maxSteps : Nat
  /-- The longest pause of a delay node. -/
  maxDelayMs : Nat

/-- How a walk ended. -/
structure Traversal where
  stepsExecuted : Nat
  stepFailed : Bool
  /-- Why the walk could not begin. -/
  setupError : Option String
  deriving DecidableEq, Repr

namespace Traversal

/-- A walk that could not begin. -/
def notBegun (reason : String) : Traversal := ⟨0, false, some reason⟩

/-- A walk that ended after a number of steps. -/
def ended (steps : Nat) (failed : Bool) : Traversal := ⟨steps, failed, none⟩

end Traversal

namespace Executor

variable (x : Executor)

/-! ## Visits -/

/-- Milliseconds as a double of seconds: whole seconds, and a fraction that is rounded by itself. -/
def secondsOfMs (ms : Nat) : Binary64 :=
  (Binary64.ofNat (ms / 1000)).addMagnitudes
    ((Binary64.ofNat (ms % 1000 * 1000000)).div (.ofNat 1000000000))

/-- The seconds that a delay node pauses: at least none, and at most the limit. -/
def delaySeconds (config : Config) : Binary64 :=
  ((Config.number? config "delay").getD .zero).clamp .zero (secondsOfMs x.maxDelayMs)

/-- What a handler is told about the run. -/
def actionContext (execution : Execution) (node : Node) : ActionContext :=
  ⟨execution.workflowId, execution.id, node.id, execution.payload⟩

/-- The output of an action, or what the step records instead. -/
def settled : Outcome → Except String NodeOutput
  | .finished (.ok output) => .ok (.action output)
  | .finished (.error fault) => .error fault.message
  | .panicked _ => .error unexpectedNodeError

/-- Visits a node. -/
def visit (execution : Execution) (node : Node) (context : Context) :
    Process (Except String NodeOutput) :=
  match node.kind with
  | .trigger => .done (.ok (.trigger execution.payload))
  | .action type => do
      let outcome ← x.registry.dispatch type node.config (actionContext execution node)
      return settled outcome
  | .condition =>
      let text := node.conditionText
      .done (.ok (.condition (evaluateCondition text context.entries) text))
  | .delay => do
      let seconds := x.delaySeconds node.config
      let () ← Process.request (.sleep (seconds.nearestParts 1000000000))
      return .ok (.delay seconds)
  | .terminal => .done (.ok .terminal)
  | .other _ => .done (.ok .passed)

/-! ## Walks -/

/-- The step that records a visit. -/
def stepOf (id executionId : Uuid) (node : Node) (context : Context) (startedAt completedAt : Instant) :
    Except String NodeOutput → Step
  | .ok output =>
      ⟨id, executionId, node.id, .completed, context.summary, output.toJson, none, startedAt, completedAt⟩
  | .error message =>
      ⟨id, executionId, node.id, .failed, context.summary, .object [], some message, startedAt,
        completedAt⟩

/-- The context after a visit that succeeded. -/
def extend (context : Context) (node : Node) (output : NodeOutput) : Context :=
  let extended := context.withOutput node.id output.toJson
  match output.conditionResult? with
  | some result => extended.withConditionResult result
  | none => extended

/-- Visits a node and records the visit. -/
def recordVisit (execution : Execution) (node : Node) (context : Context) :
    Task (Except String NodeOutput) := do
  let startedAt ← Task.request .clock
  let result ← ExceptT.lift (x.visit execution node context)
  let completedAt ← Task.request .clock
  let id ← Task.request .freshId
  Task.call (.insertStep (stepOf id execution.id node context startedAt completedAt result).row)
  return result

/-- Walks from a node; `left` is how many more steps there may be and `taken` how many there were. -/
def walk (execution : Execution) (graph : Graph) :
    (left taken : Nat) → Context → Option Node → Task Traversal
  | _, taken, _, none => return .ended taken false
  | 0, taken, _, some _ => return .ended taken false
  | left + 1, taken, context, some node => do
      match ← x.recordVisit execution node context with
      | .error _ => return .ended (taken + 1) true
      | .ok output =>
          if node.kind = .terminal then return .ended (taken + 1) false
          else
            let context := extend context node output
            walk execution graph left (taken + 1) context (graph.next? node context.conditionResult?)

/-- Checks the graph and finds where the walk begins. -/
def entry (graph : Graph) : Except Defect Node := do
  graph.checkReserved
  graph.trigger

/-- Loads the workflow and walks its graph. -/
def drive (execution : Execution) : Task Traversal := do
  match ← Task.ask (.getWorkflow execution.workflowId) with
  | .error .notFound => return .notBegun workflowNotFoundError
  | .error f => throw (.store f)
  | .ok row =>
      let nodes ← Task.call (.listNodes execution.workflowId)
      let edges ← Task.call (.listEdges execution.workflowId)
      let graph := Graph.ofWorkflow (.ofRows row nodes edges)
      match entry graph with
      | .error defect => return .notBegun defect.message
      | .ok trigger => x.walk execution graph x.maxSteps 0 (.new execution.payload) (some trigger)

/-! ## Requests of callers -/

/-- Runs an execution that has been started. -/
def runStarted (execution : Execution) (clock : RunClock) : Task Summary := do
  let outcome ← tryCatch (x.drive execution) fun e => do
    let aborted := finalize execution.id clock true (some abortedError) finalizePauses
    tryCatch (discard aborted) fun _ => pure ()
    throw e
  let finished ← finalize execution.id clock outcome.stepFailed outcome.setupError finalizePauses
  return ⟨finished.status = .completed, execution.id, finished.durationMs, outcome.stepsExecuted⟩

/-- Goes through the run of a pending execution. -/
def runAttached (id : Uuid) : Task Summary := do
  let execution ← load id
  let clock ← start execution
  x.runStarted execution clock

/-- What a caller is told of a run that was spawned as a task. -/
def joined (id : Uuid) : Except String (Except EngineError Summary) → Except EngineError Summary
  | .ok result => result
  | .error report => .error (.interrupted id report)

/-- Runs a pending execution in a task of its own, and waits for the task. -/
def run (id : Uuid) : ExceptT EngineError Awaited Summary :=
  ExceptT.mk (joined id <$> Awaited.spawn (x.runAttached id).run)

@[simp] theorem run_process (id : Uuid) : (x.run id).run.process = (x.runAttached id).run := by
  change joined id <$> Except.ok <$> (x.runAttached id).run = _
  rw [← comp_map]
  exact id_map _

@[simp] theorem run_interrupted? (id : Uuid) (report : String) :
    (x.run id).run.interrupted? report = some (.error (.interrupted id report)) := rfl

end Executor

namespace Executor

/-- Adds a pending execution of a workflow. -/
def create (workflowId : Uuid) (payload : Json) : Task Execution := do
  match ← Task.ask (.getWorkflow workflowId) with
  | .error .notFound => throw (.workflowNotFound workflowId)
  | .error f => throw (.store f)
  | .ok _ =>
      let row ← Task.call (.createExecution workflowId payload)
      Task.ofRecord row.toExecution

/-- An execution. -/
def get (id : Uuid) : Task Execution := load id

/-- The steps of an execution, in the order in which they were recorded. -/
def steps (id : Uuid) : Task (List Step) := do
  let _ ← load id
  let rows ← Task.call (.listSteps id)
  Task.ofRecord (rows.mapM StepRow.toStep)

/-- The id that a caller names in canonical text. -/
def readId (text : String) : Except EngineError Uuid :=
  match Uuid.read? text with
  | some id => .ok id
  | none => .error (.invalidExecutionId text)

/-- Runs the pending execution that a text names. -/
def runNamed (x : Executor) (text : String) : ExceptT EngineError Awaited Summary :=
  match readId text with
  | .ok id => x.run id
  | .error e => ExceptT.mk (.known (.error e))

theorem runNamed_of_readId {x : Executor} {text : String} {id : Uuid} (named : readId text = .ok id) :
    x.runNamed text = x.run id := by
  simp only [runNamed, named]

end Executor

end WorkflowEngine
