/-
Module: WorkflowEngine.Store.Call
Layer: Store
Purpose: The calls that the engine makes to a store, and what a store is.
Imports: WorkflowEngine.Execution.Record, WorkflowEngine.Store.Fault
Trusted boundary: none
Main exports: StoreMethod, StoreCall, StoreCall.Answer, StoreReply, Store
-/
import WorkflowEngine.Execution.Record
import WorkflowEngine.Store.Fault

/-!
# Calls to a store

A store keeps workflows, executions and steps.  Starting and finishing an execution are conditional writes: the
first succeeds only while the execution is pending, the second only while it is running.  Steps can only be
added and listed.
-/

namespace WorkflowEngine

/-- The kinds of calls. -/
inductive StoreMethod where
  | createExecution
  | getExecution
  | markRunning
  | finishExecution
  | getWorkflow
  | listNodes
  | listEdges
  | insertStep
  | listSteps
  deriving DecidableEq, Repr

namespace StoreMethod

/-- All kinds of calls. -/
def all : List StoreMethod :=
  [.createExecution, .getExecution, .markRunning, .finishExecution, .getWorkflow, .listNodes, .listEdges,
    .insertStep, .listSteps]

/-- The name of a kind of call. -/
def name : StoreMethod → String
  | .createExecution => "create_execution"
  | .getExecution => "get_execution"
  | .markRunning => "mark_running"
  | .finishExecution => "finish_execution"
  | .getWorkflow => "get_workflow"
  | .listNodes => "list_nodes"
  | .listEdges => "list_edges"
  | .insertStep => "insert_step"
  | .listSteps => "list_steps"

end StoreMethod

/-- A call to a store. -/
inductive StoreCall where
  /-- Adds a pending execution. -/
  | createExecution (workflowId : Uuid) (payload : Json)
  | getExecution (id : Uuid)
  /-- Starts a pending execution; tells whether it was pending. -/
  | markRunning (id : Uuid) (startedAt : Instant)
  /-- Ends a running execution. -/
  | finishExecution (id : Uuid) (finish : Finish)
  | getWorkflow (id : Uuid)
  | listNodes (workflowId : Uuid)
  | listEdges (workflowId : Uuid)
  | insertStep (step : StepRow)
  | listSteps (executionId : Uuid)
  deriving DecidableEq, Repr

namespace StoreCall

/-- The kind of a call. -/
def method : StoreCall → StoreMethod
  | .createExecution .. => .createExecution
  | .getExecution _ => .getExecution
  | .markRunning .. => .markRunning
  | .finishExecution .. => .finishExecution
  | .getWorkflow _ => .getWorkflow
  | .listNodes _ => .listNodes
  | .listEdges _ => .listEdges
  | .insertStep _ => .insertStep
  | .listSteps _ => .listSteps

/-- What a call answers when it succeeds. -/
abbrev Answer : StoreCall → Type
  | .createExecution .. => ExecutionRow
  | .getExecution _ => ExecutionRow
  | .markRunning .. => Bool
  | .finishExecution .. => Unit
  | .getWorkflow _ => WorkflowRow
  | .listNodes _ => List NodeRow
  | .listEdges _ => List EdgeRow
  | .insertStep _ => Unit
  | .listSteps _ => List StepRow

end StoreCall

/-- What a call answers. -/
abbrev StoreReply (call : StoreCall) : Type := Except StoreFault call.Answer

/-- What a store uses for a new execution: an id that is not in use, and the time. -/
structure Stamp where
  id : Uuid
  now : Instant
  deriving DecidableEq, Repr

/-- A kind of store: how its states answer calls. -/
class Store (σ : Type) where
  answer : Stamp → (call : StoreCall) → σ → StoreReply call × σ

end WorkflowEngine
