/-
Module: WorkflowEngine.Execution.Status
Layer: Execution
Purpose: The states of an execution and of a step, and their texts.
Imports: none
Trusted boundary: none
Main exports: ExecutionStatus, StepStatus, ExecutionStatus.ofOutcome
-/

/-!
# States

An execution is pending, then running, then completed or failed.  A step is recorded once, completed or
failed.
-/

namespace WorkflowEngine

/-- The state of an execution. -/
inductive ExecutionStatus where
  | pending
  | running
  | completed
  | failed
  deriving DecidableEq, Repr

namespace ExecutionStatus

/-- The text of a state. -/
def name : ExecutionStatus → String
  | .pending => "pending"
  | .running => "running"
  | .completed => "completed"
  | .failed => "failed"

/-- The state with a text, or else the reason why there is none. -/
def read (s : String) : Except String ExecutionStatus :=
  match s with
  | "pending" => .ok .pending
  | "running" => .ok .running
  | "completed" => .ok .completed
  | "failed" => .ok .failed
  | unknown => .error ("unknown execution status: " ++ unknown)

/-- The state in which a run ends: completed only if nothing failed. -/
def ofOutcome (stepFailed setupFailed : Bool) : ExecutionStatus :=
  if stepFailed || setupFailed then .failed else .completed

@[simp] theorem read_name (s : ExecutionStatus) : read s.name = .ok s := by cases s <;> rfl

end ExecutionStatus

/-- The state of a step. -/
inductive StepStatus where
  | completed
  | failed
  deriving DecidableEq, Repr

namespace StepStatus

/-- The text of a state. -/
def name : StepStatus → String
  | .completed => "completed"
  | .failed => "failed"

/-- The state with a text, or else the reason why there is none. -/
def read (s : String) : Except String StepStatus :=
  match s with
  | "completed" => .ok .completed
  | "failed" => .ok .failed
  | unknown => .error ("unknown step status: " ++ unknown)

@[simp] theorem read_name (s : StepStatus) : read s.name = .ok s := by cases s <;> rfl

end StepStatus

end WorkflowEngine
