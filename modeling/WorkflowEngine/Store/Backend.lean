/-
Module: WorkflowEngine.Store.Backend
Layer: Store
Purpose: A store of either kind, for programs that choose one when they start.
Imports: WorkflowEngine.Store.Memory, WorkflowEngine.Store.Relational.Server
Trusted boundary: none
Main exports: Backend, Backend.answer, Backend.save
-/
import WorkflowEngine.Store.Memory
import WorkflowEngine.Store.Relational.Server

/-!
# Stores of either kind
-/

namespace WorkflowEngine

/-- A store in memory or on a database server. -/
inductive Backend where
  | memory (store : MemoryStore)
  | relational (server : Server)

namespace Backend

/-- Answers a call. -/
def answer (stamp : Stamp) (call : StoreCall) : Backend → StoreReply call × Backend
  | .memory store =>
      let (reply, store) := MemoryStore.answer stamp call store
      (reply, .memory store)
  | .relational server =>
      let (reply, server) := Server.answer stamp call server
      (reply, .relational server)

instance : Store Backend := ⟨answer⟩

/-- Stores a workflow: in memory in place of one with the same id, on a server only as a new one. -/
def save (rows : Rows) : Backend → Except StoreFault Unit × Backend
  | .memory store => (.ok (), .memory (store.putWorkflow rows))
  | .relational server =>
      let (result, server) := server.saveWorkflow rows
      (result, .relational server)

/-- The server, if the store is on one. -/
def server? : Backend → Option Server
  | .memory _ => none
  | .relational server => some server

end Backend

end WorkflowEngine
