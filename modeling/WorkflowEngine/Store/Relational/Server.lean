/-
Module: WorkflowEngine.Store.Relational.Server
Layer: Store
Purpose: A database server: statements, transactions, the log of both, and the store on top of them.
Imports: WorkflowEngine.Store.Call, WorkflowEngine.Store.Relational.Tables,
  WorkflowEngine.Workflow.Definition
Trusted boundary: none
Main exports: Server, Server.perform, Server.transaction, Server.answer, Server.saveWorkflow
-/
import WorkflowEngine.Store.Call
import WorkflowEngine.Store.Relational.Tables
import WorkflowEngine.Workflow.Definition

/-!
# The relational store

Every call of the engine is one statement.  A workflow is saved by several statements in one transaction, which
is undone as a whole if one of them fails.  The server keeps a log of what it was asked.
-/

namespace WorkflowEngine

/-- What a server is asked: a statement, or to begin or commit a transaction. -/
inductive Asked where
  | statement (kind : StatementKind)
  | begin
  | commit
  deriving DecidableEq, Repr

/-- An entry of the log. -/
inductive LogEntry where
  | begun
  | committed
  | rolledBack
  /-- A statement that was executed, and how many rows it found or changed. -/
  | executed (statement : Statement) (rows : Nat)
  /-- A statement that was refused with a code. -/
  | refused (statement : Statement) (code : String)
  deriving DecidableEq, Repr

/-- A database server. -/
structure Server where
  tables : Tables
  columns : Columns
  /-- What is refused, counted from zero for each thing that the server can be asked. -/
  faults : Asked → Nat → Option Refusal
  /-- What was asked so far, latest first. -/
  history : List Asked
  /-- The log, latest entry first. -/
  log : List LogEntry

/-- The name of what a server is asked. -/
def Asked.text : Asked → String
  | .statement kind => kind.text
  | .begin => "begin"
  | .commit => "commit"

namespace Server

/-- A server that refuses nothing without reason. -/
def ofTables (columns : Columns) (tables : Tables) : Server := ⟨tables, columns, fun _ _ => none, [], []⟩

/-- Notes what is asked, and tells whether it is refused. -/
def ask (s : Server) (what : Asked) : Option Refusal × Server :=
  (s.faults what (s.history.count what), { s with history := what :: s.history })

/-- Adds an entry to the log. -/
def write (s : Server) (entry : LogEntry) : Server := { s with log := entry :: s.log }

/-- A refusal as a fault of the database. -/
def fault (r : Refusal) : DatabaseFault := .refused r.code r.message

/-- Executes a statement and logs it. -/
def perform (statement : Statement) (s : Server) : Except DatabaseFault statement.Result × Server :=
  let (refusal, s) := s.ask (.statement statement.kind)
  let outcome : Except Refusal (statement.Result × Tables) := match refusal with
    | some r => .error r
    | none => s.tables.execute s.columns statement
  match outcome with
  | .ok (result, tables) =>
      (.ok result, { s with tables }.write (.executed statement (statement.rowCount result)))
  | .error r => (.error (fault r), s.write (.refused statement r.code))

/-- Executes statements until one fails. -/
def performAll : List Statement → Server → Except DatabaseFault Unit × Server
  | [], s => (.ok (), s)
  | statement :: rest, s =>
      match s.perform statement with
      | (.ok _, s) => performAll rest s
      | (.error f, s) => (.error f, s)

/-- Puts the tables back to what they were when a transaction began. -/
def rollBack (before : Tables) (s : Server) : Server := { s with tables := before }.write .rolledBack

/-- Begins a transaction. -/
def begin (s : Server) : Except DatabaseFault Unit × Server :=
  match s.ask .begin with
  | (some r, s) => (.error (fault r), s)
  | (none, s) => (.ok (), s.write .begun)

/-- Commits a transaction; if that fails, it is undone. -/
def commit (before : Tables) (s : Server) : Except DatabaseFault Unit × Server :=
  match s.ask .commit with
  | (some r, s) => (.error (fault r), s.rollBack before)
  | (none, s) => (.ok (), s.write .committed)

/-- Executes statements in one transaction. -/
def transaction (statements : List Statement) (s : Server) : Except DatabaseFault Unit × Server :=
  let before := s.tables
  match s.begin with
  | (.error f, s) => (.error f, s)
  | (.ok (), s) =>
      match s.performAll statements with
      | (.error f, s) => (.error f, s.rollBack before)
      | (.ok (), s) => s.commit before

/-! ## Saving workflows -/

/-- The statements that save a workflow; nodes and edges are numbered in order. -/
def saveStatements (rows : Rows) : List Statement :=
  .insertWorkflow rows.workflow :: (rows.nodes.zipIdx.map fun (n, i) => .insertNode n i)
    ++ rows.edges.zipIdx.map fun (e, i) => .insertEdge e i

/-- Saves a workflow as a whole or not at all. -/
def saveWorkflow (rows : Rows) (s : Server) : Except StoreFault Unit × Server :=
  let (result, s) := s.transaction (saveStatements rows)
  (result.mapError .database, s)

/-! ## The store -/

/-- Executes a statement, and takes what a call makes of its result. -/
def performFor {α : Type} (statement : Statement) (use : statement.Result → Except StoreFault α) (s : Server) :
    Except StoreFault α × Server :=
  match s.perform statement with
  | (.ok result, s) => (use result, s)
  | (.error f, s) => (.error (.database f), s)

/-- The first row, or the fault that there is none. -/
def firstRow {α : Type} (rows : List α) : Except StoreFault α :=
  match rows with
  | row :: _ => .ok row
  | [] => .error .notFound

/-- Answers a call. -/
def answer (stamp : Stamp) : (call : StoreCall) → Server → StoreReply call × Server
  | .createExecution workflowId payload, s =>
      s.performFor (.insertExecution (.new stamp.id workflowId payload stamp.now)) .ok
  | .getExecution id, s => s.performFor (.selectExecution id) firstRow
  | .markRunning id startedAt, s => s.performFor (.startExecution id startedAt) fun n => .ok (n == 1)
  | .finishExecution id finish, s =>
      s.performFor (.finishExecution id finish) fun n => if n = 0 then .error .notFound else .ok ()
  | .getWorkflow id, s => s.performFor (.selectWorkflow id) firstRow
  | .listNodes id, s => s.performFor (.selectNodes id) .ok
  | .listEdges id, s => s.performFor (.selectEdges id) .ok
  | .insertStep step, s => s.performFor (.insertStep step) fun _ => .ok ()
  | .listSteps id, s => s.performFor (.selectSteps id) .ok

instance : Store Server := ⟨answer⟩

end Server

end WorkflowEngine
