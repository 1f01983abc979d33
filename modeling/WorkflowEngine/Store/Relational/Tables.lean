/-
Module: WorkflowEngine.Store.Relational.Tables
Layer: Store
Purpose: The tables of a relational store and the statements on them.
Imports: WorkflowEngine.Execution.Record
Trusted boundary: what columns make of values that are bound to them is a parameter (Columns)
Main exports: TableName, Tables, Statement, Statement.Result, Columns, Tables.execute
-/
import WorkflowEngine.Execution.Record

/-!
# Tables and statements

Each table holds rows of one type, in the order in which they were inserted.  A statement that inserts checks
the primary key and then the foreign key of its table; a statement that updates changes every row that its
condition selects and tells how many there were.

Texts and JSON are bound to a statement before it is executed.  What the server makes of them is not up to the
statement: it need not take every text, and it keeps JSON in a form of its own, in which numbers and keys may look
different when they are read again.
-/

namespace WorkflowEngine

/-- The tables. -/
inductive TableName where
  | workflows
  | nodes
  | edges
  | executions
  | steps
  | migrations
  deriving DecidableEq, Repr

/-- The name of a table. -/
def TableName.text : TableName → String
  | .workflows => "workflows"
  | .nodes => "workflow_nodes"
  | .edges => "workflow_edges"
  | .executions => "executions"
  | .steps => "execution_steps"
  | .migrations => "_sqlx_migrations"

/-- A value with the number that its table is ordered by. -/
structure Placed (α : Type) where
  row : α
  place : Int
  deriving DecidableEq, Repr

/-- The record of a change of the schema. -/
structure MigrationRow where
  version : Int
  success : Bool
  /-- Whether the change was made with the text that is known for its version. -/
  intact : Bool
  deriving DecidableEq, Repr

/-- What a database holds. -/
structure Tables where
  /-- The tables that exist. -/
  existing : List TableName
  workflows : List WorkflowRow
  nodes : List (Placed NodeRow)
  edges : List (Placed EdgeRow)
  executions : List ExecutionRow
  steps : List (Placed StepRow)
  migrations : List MigrationRow
  /-- The number that the next step gets. -/
  nextStep : Int
  deriving DecidableEq, Repr

/-- A statement. -/
inductive Statement where
  | createTable (table : TableName)
  /-- Creates the index of the steps. -/
  | createIndex
  | insertWorkflow (row : WorkflowRow)
  | insertNode (row : NodeRow) (position : Nat)
  | insertEdge (row : EdgeRow) (position : Nat)
  | insertExecution (row : ExecutionRow)
  | insertStep (row : StepRow)
  | insertMigration (version : Int)
  | selectWorkflow (id : Uuid)
  | selectNodes (workflowId : Uuid)
  | selectEdges (workflowId : Uuid)
  | selectExecution (id : Uuid)
  | selectSteps (executionId : Uuid)
  /-- The first change that was begun and not finished. -/
  | selectUnfinished
  | selectMigrations
  | startExecution (id : Uuid) (startedAt : Instant)
  | finishExecution (id : Uuid) (finish : Finish)
  | timeMigration (version : Int)
  deriving DecidableEq, Repr

/-- What kind of statement a statement is. -/
inductive StatementKind where
  /-- Creates a table or an index. -/
  | create
  | insert (table : TableName)
  | select (table : TableName)
  | update (table : TableName)
  deriving DecidableEq, Repr

/-- The name of a kind. -/
def StatementKind.text : StatementKind → String
  | .create => "create"
  | .insert t => "insert " ++ t.text
  | .select t => "select " ++ t.text
  | .update t => "update " ++ t.text

/-- The table that statements of a kind need. -/
def StatementKind.table? : StatementKind → Option TableName
  | .create => none
  | .insert t => some t
  | .select t => some t
  | .update t => some t

namespace Statement

/-- What kind of statement a statement is. -/
def kind : Statement → StatementKind
  | .createTable _ => .create
  | .createIndex => .create
  | .insertWorkflow _ => .insert .workflows
  | .insertNode .. => .insert .nodes
  | .insertEdge .. => .insert .edges
  | .insertExecution _ => .insert .executions
  | .insertStep _ => .insert .steps
  | .insertMigration _ => .insert .migrations
  | .selectWorkflow _ => .select .workflows
  | .selectNodes _ => .select .nodes
  | .selectEdges _ => .select .edges
  | .selectExecution _ => .select .executions
  | .selectSteps _ => .select .steps
  | .selectUnfinished => .select .migrations
  | .selectMigrations => .select .migrations
  | .startExecution .. => .update .executions
  | .finishExecution .. => .update .executions
  | .timeMigration _ => .update .migrations

/-- What a statement answers. -/
abbrev Result : Statement → Type
  | .selectWorkflow _ => List WorkflowRow
  | .selectNodes _ => List NodeRow
  | .selectEdges _ => List EdgeRow
  | .selectExecution _ => List ExecutionRow
  | .selectSteps _ => List StepRow
  | .selectUnfinished => Option MigrationRow
  | .selectMigrations => List MigrationRow
  | .insertExecution _ => ExecutionRow
  | .startExecution .. => Nat
  | .finishExecution .. => Nat
  | _ => Unit

/-- How many rows a statement found or changed. -/
def rowCount : (s : Statement) → s.Result → Nat
  | .selectWorkflow _, rows => rows.length
  | .selectNodes _, rows => rows.length
  | .selectEdges _, rows => rows.length
  | .selectExecution _, rows => rows.length
  | .selectSteps _, rows => rows.length
  | .selectUnfinished, row => row.toList.length
  | .selectMigrations, rows => rows.length
  | .startExecution .., n => n
  | .finishExecution .., n => n
  | _, _ => 0

end Statement

/-- Why a server refuses a statement: a code and a message. -/
structure Refusal where
  code : String
  message : String
  deriving DecidableEq, Repr

namespace Refusal

/-- There is no such table. -/
def noTable (t : TableName) : Refusal := ⟨"42P01", "relation \"" ++ t.text ++ "\" does not exist"⟩

/-- The key of a new row is in use. -/
def duplicateKey (t : TableName) : Refusal :=
  ⟨"23505", "duplicate key value violates unique constraint \"" ++ t.text ++ "_pkey\""⟩

/-- A new row names a row that does not exist. -/
def unknownKey (t : TableName) (column : String) : Refusal :=
  ⟨"23503", "insert or update on table \"" ++ t.text ++ "\" violates foreign key constraint \"" ++ t.text
    ++ "_" ++ column ++ "_fkey\""⟩

end Refusal

/-! ## Columns -/

/-- A value that is bound to a column. -/
inductive BoundValue where
  | text (value : String)
  | json (value : Json)
  deriving DecidableEq, Repr

/-- The values that are bound to columns of text and of JSON, in the order of the columns. -/
def Statement.bound : Statement → List BoundValue
  | .insertWorkflow row => [.text row.name]
  | .insertNode row _ =>
      [.text row.id, .text row.type] ++ row.actionType.toList.map .text ++ row.label.toList.map .text
        ++ [.json row.config]
  | .insertEdge row _ =>
      [.text row.id, .text row.source, .text row.target] ++ row.handle.toList.map .text
  | .insertExecution row => [.json row.payload]
  | .insertStep row =>
      [.text row.nodeId, .text row.status, .json row.input, .json row.output] ++ row.error.toList.map .text
  | .finishExecution _ finish => .text finish.status :: finish.error.toList.map .text
  | _ => []

/-- What a server makes of values that are bound to columns. -/
structure Columns where
  /-- Why a value is not taken, or could not be read again. -/
  refusal? : BoundValue → Option Refusal
  /-- What is read of JSON that was taken. -/
  read : Json → Json

namespace Columns

/-- Columns that take every value and give it back as it is. -/
def verbatim : Columns := ⟨fun _ => none, id⟩

/-- A node as it is read. -/
def node (c : Columns) (n : NodeRow) : NodeRow := { n with config := c.read n.config }

/-- An execution as it is read. -/
def execution (c : Columns) (e : ExecutionRow) : ExecutionRow := { e with payload := c.read e.payload }

/-- A step as it is read. -/
def step (c : Columns) (s : StepRow) : StepRow := { s with input := c.read s.input, output := c.read s.output }

end Columns

namespace Tables

/-- A database without tables. -/
def none : Tables := ⟨[], [], [], [], [], [], [], 1⟩

/-- The tables of the schema. -/
def schema : List TableName := [.workflows, .nodes, .edges, .executions, .steps]

/-- A database with the tables of the schema, all empty. -/
def empty : Tables := { none with existing := schema }

/-- Whether a workflow exists. -/
def hasWorkflow (t : Tables) (id : Uuid) : Bool := t.workflows.any (·.id = id)

/-- Whether an execution exists. -/
def hasExecution (t : Tables) (id : Uuid) : Bool := t.executions.any (·.id = id)

/-- The rows of a table in the order of their numbers; rows with one number keep their order. -/
def inOrder {α : Type} (rows : List (Placed α)) : List α :=
  (rows.mergeSort fun a b => a.place ≤ b.place).map (·.row)

/-- Changes the rows that a condition selects. -/
def updateExecutions (t : Tables) (selects : ExecutionRow → Bool) (change : ExecutionRow → ExecutionRow) :
    Nat × Tables :=
  (t.executions.countP selects,
    { t with executions := t.executions.map fun row => if selects row then change row else row })

/-- Refuses a new row unless its key is free and the row that it names exists. -/
def checkKeys (table : TableName) (inUse : Bool) (foreign : Option (String × Bool)) : Except Refusal Unit :=
  if inUse then .error (.duplicateKey table)
  else match foreign with
    | some (column, false) => .error (.unknownKey table column)
    | _ => .ok ()

/-- The records of changes, by version. -/
def history (t : Tables) : List MigrationRow := t.migrations.mergeSort fun a b => a.version ≤ b.version

/-- Executes a statement on tables that exist, where all values are taken. -/
def executeOn (c : Columns) (t : Tables) : (s : Statement) → Except Refusal (s.Result × Tables)
  | .createTable table =>
      .ok ((), if t.existing.contains table then t else { t with existing := t.existing ++ [table] })
  | .createIndex => .ok ((), t)
  | .insertWorkflow row => do
      checkKeys .workflows (t.hasWorkflow row.id) Option.none
      .ok ((), { t with workflows := t.workflows ++ [row] })
  | .insertNode row position => do
      checkKeys .nodes (t.nodes.any fun n => n.row.workflowId = row.workflowId ∧ n.row.id = row.id)
        (some ("workflow_id", t.hasWorkflow row.workflowId))
      .ok ((), { t with nodes := t.nodes ++ [⟨c.node row, position⟩] })
  | .insertEdge row position => do
      checkKeys .edges (t.edges.any fun e => e.row.workflowId = row.workflowId ∧ e.row.id = row.id)
        (some ("workflow_id", t.hasWorkflow row.workflowId))
      .ok ((), { t with edges := t.edges ++ [⟨row, position⟩] })
  | .insertExecution row => do
      checkKeys .executions (t.hasExecution row.id) (some ("workflow_id", t.hasWorkflow row.workflowId))
      .ok (c.execution row, { t with executions := t.executions ++ [c.execution row] })
  | .insertStep row => do
      checkKeys .steps (t.steps.any fun s => s.row.id = row.id)
        (some ("execution_id", t.hasExecution row.executionId))
      .ok ((), { t with steps := t.steps ++ [⟨c.step row, t.nextStep⟩], nextStep := t.nextStep + 1 })
  | .insertMigration version => do
      checkKeys .migrations (t.migrations.any (·.version = version)) Option.none
      .ok ((), { t with migrations := t.migrations ++ [⟨version, true, true⟩] })
  | .selectWorkflow id => .ok (t.workflows.filter (·.id = id), t)
  | .selectNodes id => .ok (inOrder (t.nodes.filter (·.row.workflowId = id)), t)
  | .selectEdges id => .ok (inOrder (t.edges.filter (·.row.workflowId = id)), t)
  | .selectExecution id => .ok (t.executions.filter (·.id = id), t)
  | .selectSteps id => .ok (inOrder (t.steps.filter (·.row.executionId = id)), t)
  | .selectUnfinished => .ok (t.history.find? (!·.success), t)
  | .selectMigrations => .ok (t.history, t)
  | .startExecution id startedAt =>
      .ok (t.updateExecutions (fun row => row.id = id ∧ row.status = "pending")
        fun row => { row with status := "running", startedAt := some startedAt })
  | .finishExecution id finish =>
      .ok (t.updateExecutions (fun row => row.id = id ∧ row.status = "running") (·.finished finish))
  | .timeMigration _ => .ok ((), t)

/-- Executes a statement unless one of its values is not taken. -/
def executeBound (c : Columns) (t : Tables) (s : Statement) : Except Refusal (s.Result × Tables) :=
  match s.bound.findSome? c.refusal? with
  | some r => .error r
  | Option.none => t.executeOn c s

/-- Executes a statement. -/
def execute (c : Columns) (t : Tables) (s : Statement) : Except Refusal (s.Result × Tables) :=
  match s.kind.table? with
  | some table => if t.existing.contains table then t.executeBound c s else .error (.noTable table)
  | Option.none => t.executeBound c s

end Tables

end WorkflowEngine
