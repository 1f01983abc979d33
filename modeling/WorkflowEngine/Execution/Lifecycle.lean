/-
Module: WorkflowEngine.Execution.Lifecycle
Layer: Execution
Purpose: Loading, starting and finishing an execution.
Imports: WorkflowEngine.Awaited, WorkflowEngine.Execution.Error
Trusted boundary: none
Main exports: Task, RunClock, load, start, finish, finalize
-/
import WorkflowEngine.Awaited
import WorkflowEngine.Execution.Error

/-!
# The life of an execution

An execution is started at most once, because the store moves it from pending to running only once.  The state
in which it ends is never chosen: it follows from whether something failed.
-/

namespace WorkflowEngine

/-- A process that may end with an error. -/
abbrev Task (α : Type) := ExceptT EngineError Process α

namespace Task

/-- Makes a request. -/
def request (r : Request) : Task r.Answer := ExceptT.lift (Process.request r)

/-- Calls the store and takes what it replies. -/
def ask (call : StoreCall) : Task (StoreReply call) := request (.store call)

/-- Calls the store; a failure is an error. -/
def call (call : StoreCall) : Task call.Answer := do
  match ← ask call with
  | .ok a => return a
  | .error f => throw (.store f)

/-- Ends with an error if a stored row means nothing. -/
def ofRecord {α : Type} : Except String α → Task α
  | .ok a => pure a
  | .error reason => throw (.invalidRecord reason)

/-- A task that its caller goes through itself. -/
def inline {α : Type} (task : Task α) : ExceptT EngineError Awaited α := ExceptT.mk (.inline task.run)

end Task

/-- When a run was marked as started, and the reading of the clock right after that. -/
structure RunClock where
  startedAt : Instant
  anchor : Instant
  deriving DecidableEq, Repr

/-- The milliseconds since a run was started. -/
def RunClock.elapsedMs (clock : RunClock) (now : Instant) : Nat := now - clock.anchor

/-- How a run ended. -/
structure FinishedRun where
  status : ExecutionStatus
  completedAt : Instant
  durationMs : Nat
  deriving DecidableEq, Repr

/-- Loads an execution. -/
def load (id : Uuid) : Task Execution := do
  match ← Task.ask (.getExecution id) with
  | .ok row => Task.ofRecord row.toExecution
  | .error .notFound => throw (.executionNotFound id)
  | .error f => throw (.store f)

/-- Starts a pending execution.  It may have been loaded some time ago; if it is not pending any more, or
another caller comes first, it is not started. -/
def start (execution : Execution) : Task RunClock := do
  if execution.status ≠ .pending then
    throw (.alreadyStarted execution.id execution.status.name)
  let startedAt ← Task.request .clock
  let won ← Task.call (.markRunning execution.id startedAt)
  if won then
    let anchor ← Task.request .clock
    return ⟨startedAt, anchor⟩
  else throw (.alreadyStarted execution.id ExecutionStatus.running.name)

/-- Ends a running execution.  It has failed if a step failed or if there is an error to record. -/
def finish (id : Uuid) (clock : RunClock) (stepFailed : Bool) (error : Option String) : Task FinishedRun := do
  let status := ExecutionStatus.ofOutcome stepFailed error.isSome
  let now ← Task.request .clock
  let durationMs := clock.elapsedMs now
  Task.call (.finishExecution id ⟨status.name, error, now, durationMs⟩)
  return ⟨status, now, durationMs⟩

/-- The pauses between attempts at ending an execution, in milliseconds. -/
def finalizePauses : List Nat := [250, 500]

/-- Ends a running execution, trying again after each pause as long as the store fails.  If the execution is
not running, trying again is of no use. -/
def finalize (id : Uuid) (clock : RunClock) (stepFailed : Bool) (error : Option String) :
    (pauses : List Nat) → Task FinishedRun
  | [] => finish id clock stepFailed error
  | pause :: pauses =>
      tryCatch (finish id clock stepFailed error) fun e =>
        if e = .store .notFound then throw e
        else do
          Task.request (.sleep (pause * 1000000))
          finalize id clock stepFailed error pauses

end WorkflowEngine
