/-
Module: WorkflowEngine.Execution.Error
Layer: Execution
Purpose: Why a request to the engine fails, how that is classified, and what a caller is told.
Imports: WorkflowEngine.Store.Fault, WorkflowEngine.Uuid, WorkflowEngine.Workflow.Graph
Trusted boundary: none
Main exports: EngineError, EngineError.message, EngineError.status, EngineError.publicMessage
-/
import WorkflowEngine.Store.Fault
import WorkflowEngine.Uuid
import WorkflowEngine.Workflow.Graph

/-!
# Errors of the engine

A failed step is no error: it is recorded and shows in the state of the execution.  An error is a request that
could not be served.  Callers are told what is wrong with their request, but nothing about failures inside.
-/

namespace WorkflowEngine

/-- Why a request to the engine fails. -/
inductive EngineError where
  /-- The workflow has a defect. -/
  | defect (defect : Defect)
  /-- A text is no id. -/
  | invalidExecutionId (text : String)
  | executionNotFound (id : Uuid)
  | workflowNotFound (id : Uuid)
  /-- The execution is not pending. -/
  | alreadyStarted (id : Uuid) (status : String)
  /-- The task of a run ended without a result. -/
  | interrupted (id : Uuid) (reason : String)
  /-- A stored row holds a value that means nothing. -/
  | invalidRecord (reason : String)
  | store (fault : StoreFault)
  deriving DecidableEq, Repr

namespace EngineError

/-- The wording of an error. -/
def message : EngineError → String
  | .defect d => d.message
  | .invalidExecutionId text => "invalid execution id: '" ++ text ++ "'"
  | .executionNotFound id => "execution " ++ id.render ++ " not found"
  | .workflowNotFound id => "workflow " ++ id.render ++ " not found"
  | .alreadyStarted id status =>
      "execution " ++ id.render ++ " cannot be started: status is '" ++ status ++ "'"
  | .interrupted id reason => "execution " ++ id.render ++ " run task ended abnormally: " ++ reason
  | .invalidRecord reason => "invalid stored record: " ++ reason
  | .store fault => "database error: " ++ fault.message

/-- The status that an error is answered with. -/
def status : EngineError → Nat
  | .defect _ | .invalidExecutionId _ => 400
  | .executionNotFound _ | .workflowNotFound _ => 404
  | .alreadyStarted _ _ => 409
  | .interrupted _ _ | .invalidRecord _ | .store _ => 500

/-- What a caller is told.  Failures inside are not described. -/
def publicMessage (e : EngineError) : String :=
  if e.status = 500 then "internal error" else e.message

theorem publicMessage_inside {e : EngineError} (inside : e.status = 500) : e.publicMessage = "internal error" :=
  if_pos inside

end EngineError

end WorkflowEngine
