/-
Module: WorkflowEngine.Execution.Record
Layer: Execution
Purpose: Executions and steps, the rows that a store keeps of them, and their JSON form.
Imports: WorkflowEngine.Execution.Status, WorkflowEngine.Workflow.Basic
Trusted boundary: none
Main exports: ExecutionRow, StepRow, Finish, Execution, Step, Summary
-/
import WorkflowEngine.Execution.Status
import WorkflowEngine.Workflow.Basic

/-!
# Executions and steps

An execution is one run of a workflow for a payload.  Its steps are the audit trail: one for each visit of a
node, written once and never changed.  Rows hold the state as text, and a row with an unknown state stands for
no execution or step.
-/

namespace WorkflowEngine

/-! ## Rows -/

/-- A stored execution. -/
structure ExecutionRow where
  id : Uuid
  workflowId : Uuid
  payload : Json
  status : String
  /-- Why the run failed other than by a failed step. -/
  error : Option String
  startedAt : Option Instant
  completedAt : Option Instant
  durationMs : Option Int
  createdAt : Instant
  deriving DecidableEq, Repr

/-- The row of a new execution. -/
def ExecutionRow.new (id workflowId : Uuid) (payload : Json) (now : Instant) : ExecutionRow :=
  ⟨id, workflowId, payload, "pending", none, none, none, none, now⟩

/-- What is written when a run ends. -/
structure Finish where
  status : String
  error : Option String
  completedAt : Instant
  durationMs : Int
  deriving DecidableEq, Repr

/-- A row with what is written when a run ends. -/
def ExecutionRow.finished (row : ExecutionRow) (f : Finish) : ExecutionRow :=
  { row with
    status := f.status, error := f.error, completedAt := some f.completedAt,
    durationMs := some f.durationMs }

/-- A stored step. -/
structure StepRow where
  id : Uuid
  executionId : Uuid
  nodeId : String
  status : String
  /-- What the step saw of the context. -/
  input : Json
  output : Json
  error : Option String
  startedAt : Instant
  completedAt : Instant
  deriving DecidableEq, Repr

/-! ## Records -/

/-- One run of a workflow for a payload. -/
structure Execution where
  id : Uuid
  workflowId : Uuid
  payload : Json
  status : ExecutionStatus
  error : Option String
  startedAt : Option Instant
  completedAt : Option Instant
  durationMs : Option Int
  createdAt : Instant
  deriving DecidableEq, Repr

/-- The row of an execution. -/
def Execution.row (e : Execution) : ExecutionRow :=
  ⟨e.id, e.workflowId, e.payload, e.status.name, e.error, e.startedAt, e.completedAt, e.durationMs,
    e.createdAt⟩

/-- The execution that a row stands for, or what is wrong with the row. -/
def ExecutionRow.toExecution (row : ExecutionRow) : Except String Execution :=
  (ExecutionStatus.read row.status).map fun status =>
    ⟨row.id, row.workflowId, row.payload, status, row.error, row.startedAt, row.completedAt,
      row.durationMs, row.createdAt⟩

/-- One visit of a node. -/
structure Step where
  id : Uuid
  executionId : Uuid
  nodeId : String
  status : StepStatus
  input : Json
  output : Json
  error : Option String
  startedAt : Instant
  completedAt : Instant
  deriving DecidableEq, Repr

/-- The row of a step. -/
def Step.row (s : Step) : StepRow :=
  ⟨s.id, s.executionId, s.nodeId, s.status.name, s.input, s.output, s.error, s.startedAt, s.completedAt⟩

/-- The step that a row stands for, or what is wrong with the row. -/
def StepRow.toStep (row : StepRow) : Except String Step :=
  (StepStatus.read row.status).map fun status =>
    ⟨row.id, row.executionId, row.nodeId, status, row.input, row.output, row.error, row.startedAt,
      row.completedAt⟩

/-- The result of a run. -/
structure Summary where
  success : Bool
  executionId : Uuid
  durationMs : Int
  stepsExecuted : Nat
  deriving DecidableEq, Repr

/-! ## JSON -/

/-- The JSON form of a point of time that may be unset. -/
def instantJson (t : Option Instant) : Json := t.elim .null fun t => .text t.render

/-- The JSON form of a stored execution. -/
def ExecutionRow.toJson (e : ExecutionRow) : Json :=
  .ofMembers [("id", .text e.id.render), ("workflow_id", .text e.workflowId.render),
    ("trigger_data", e.payload), ("status", .text e.status), ("error", .ofOption e.error),
    ("started_at", instantJson e.startedAt), ("completed_at", instantJson e.completedAt),
    ("duration_ms", e.durationMs.elim .null .ofInt), ("created_at", .text (Instant.render e.createdAt))]

/-- The JSON form of an execution. -/
def Execution.toJson (e : Execution) : Json := e.row.toJson

/-- The JSON form of a stored step. -/
def StepRow.toJson (s : StepRow) : Json :=
  .ofMembers [("id", .text s.id.render), ("execution_id", .text s.executionId.render),
    ("node_id", .text s.nodeId), ("status", .text s.status), ("input", s.input),
    ("output", s.output), ("error", .ofOption s.error), ("started_at", .text (Instant.render s.startedAt)),
    ("completed_at", .text (Instant.render s.completedAt))]

/-- The JSON form of a step. -/
def Step.toJson (s : Step) : Json := s.row.toJson

/-- The JSON form of a summary. -/
def Summary.toJson (s : Summary) : Json :=
  .ofMembers [("success", .bool s.success), ("execution_id", .text s.executionId.render),
    ("duration_ms", .ofInt s.durationMs), ("steps_executed", .ofNat s.stepsExecuted)]

end WorkflowEngine
