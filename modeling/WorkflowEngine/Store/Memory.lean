/-
Module: WorkflowEngine.Store.Memory
Layer: Store
Purpose: The store that lives in memory.
Imports: WorkflowEngine.Store.Call, WorkflowEngine.Store.Table, WorkflowEngine.Workflow.Definition
Trusted boundary: none
Main exports: MemoryStore, MemoryStore.answer, MemoryStore.putWorkflow
-/
import WorkflowEngine.Store.Call
import WorkflowEngine.Store.Table
import WorkflowEngine.Workflow.Definition

/-!
# The store in memory
-/

namespace WorkflowEngine

/-- A store in memory. -/
structure MemoryStore where
  workflows : Table WorkflowRow
  nodes : Table (List NodeRow)
  edges : Table (List EdgeRow)
  executions : Table ExecutionRow
  steps : Table (List StepRow)
  deriving Repr

namespace MemoryStore

/-- A store that holds nothing. -/
def empty : MemoryStore := ⟨.empty, .empty, .empty, .empty, .empty⟩

instance : Inhabited MemoryStore := ⟨empty⟩

/-- Stores a workflow in place of one with the same id. -/
def putWorkflow (s : MemoryStore) (rows : Rows) : MemoryStore :=
  let id := rows.workflow.id
  { s with
    workflows := s.workflows.put id rows.workflow
    nodes := s.nodes.put id rows.nodes
    edges := s.edges.put id rows.edges }

/-- The steps of an execution. -/
def stepsOf (s : MemoryStore) (executionId : Uuid) : List StepRow :=
  (s.steps.find? executionId).getD []

/-- What is found, or the fault that it is not there. -/
def found {α : Type} : Option α → Except StoreFault α
  | some a => .ok a
  | none => .error .notFound

/-- Answers a call. -/
def answer (stamp : Stamp) : (call : StoreCall) → MemoryStore → StoreReply call × MemoryStore
  | .createExecution workflowId payload, s =>
      let row := ExecutionRow.new stamp.id workflowId payload stamp.now
      (.ok row, { s with executions := s.executions.put row.id row })
  | .getExecution id, s => (found (s.executions.find? id), s)
  | .markRunning id startedAt, s =>
      match s.executions.find? id with
      | none => (.error .notFound, s)
      | some row =>
          if row.status = "pending" then
            let started := { row with status := "running", startedAt := some startedAt }
            (.ok true, { s with executions := s.executions.put id started })
          else (.ok false, s)
  | .finishExecution id finish, s =>
      match s.executions.find? id with
      | none => (.error .notFound, s)
      | some row =>
          if row.status = "running" then
            (.ok (), { s with executions := s.executions.put id (row.finished finish) })
          else (.error .notFound, s)
  | .getWorkflow id, s => (found (s.workflows.find? id), s)
  | .listNodes id, s => (.ok ((s.nodes.find? id).getD []), s)
  | .listEdges id, s => (.ok ((s.edges.find? id).getD []), s)
  | .insertStep step, s =>
      match s.executions.find? step.executionId with
      | none => (.error .notFound, s)
      | some _ =>
          let log := s.stepsOf step.executionId ++ [step]
          (.ok (), { s with steps := s.steps.put step.executionId log })
  | .listSteps id, s => (.ok (s.stepsOf id), s)

instance : Store MemoryStore := ⟨answer⟩

end MemoryStore

end WorkflowEngine
