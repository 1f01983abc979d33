/-
Module: WorkflowEngine.Store.Relational.Journal
Layer: Store
Purpose: The log of a database server as JSON.
Imports: WorkflowEngine.Store.Relational.Server
Trusted boundary: none
Main exports: Statement.toJson, LogEntry.toJson, Server.journal
-/
import WorkflowEngine.Store.Relational.Server

/-!
# The journal

A statement is shown with its table, the columns that it writes, the columns that its condition compares, the
column that it orders by, and how many rows it found or changed.  The value of a JSON column stands under a key
of its own, so that it cannot be mistaken for text.
-/

namespace WorkflowEngine

/-- The columns that hold JSON. -/
def jsonColumns : List String := ["config", "trigger_data", "input", "output"]

/-- The columns of a row, in which the values of JSON columns are marked. -/
def columnsOf (row : Json) : List (String × Json) :=
  (row.members?.getD []).map fun (name, value) =>
    (name, if jsonColumns.contains name then .ofMembers [("json", value)] else value)

namespace TableName

/-- An insertion, as members. -/
def inserted (t : TableName) (columns : List (String × Json)) : List (String × Json) :=
  [("insert", .text t.text), ("row", .ofMembers columns)]

/-- A selection of the rows of one id, as members. -/
def selected (t : TableName) (column : String) (id : Uuid) (order : Option String) (rows : Nat) :
    List (String × Json) :=
  [("select", .text t.text), ("where", .ofMembers [(column, .text id.render)]), ("order_by", .ofOption order),
    ("rows", .ofNat rows)]

end TableName

/-- The columns of a new execution that are not left to their defaults. -/
def ExecutionRow.newColumns (e : ExecutionRow) : List (String × Json) :=
  (columnsOf e.toJson).filter fun (name, _) =>
    ["id", "workflow_id", "trigger_data", "status", "created_at"].contains name

/-- An update of an execution that is in some state, as members. -/
def updatedExecution (id : Uuid) (status : String) (values : List (String × Json)) (rows : Nat) :
    List (String × Json) :=
  [("update", .text TableName.executions.text), ("set", .ofMembers values),
    ("where", .ofMembers [("id", .text id.render), ("status", .text status)]), ("rows", .ofNat rows)]

/-- A statement and how many rows it found or changed, as members. -/
def Statement.toJson (rows : Nat) : Statement → List (String × Json)
  | .createTable t => [("create", .text t.text)]
  | .createIndex => [("create", .text "index")]
  | .insertWorkflow w => TableName.workflows.inserted (columnsOf w.toJson)
  | .insertNode n p => TableName.nodes.inserted (("position", .ofNat p) :: columnsOf n.toJson)
  | .insertEdge e p => TableName.edges.inserted (("position", .ofNat p) :: columnsOf e.toJson)
  | .insertExecution e => TableName.executions.inserted e.newColumns
  | .insertStep s => TableName.steps.inserted (columnsOf s.toJson)
  | .insertMigration version => TableName.migrations.inserted
      [("version", .ofInt version), ("description", .text "init"), ("success", .bool true),
        ("checksum", .text "<bytes>"), ("execution_time", .ofInt (-1))]
  | .selectWorkflow id => TableName.workflows.selected "id" id none rows
  | .selectNodes id => TableName.nodes.selected "workflow_id" id (some "position") rows
  | .selectEdges id => TableName.edges.selected "workflow_id" id (some "position") rows
  | .selectExecution id => TableName.executions.selected "id" id none rows
  | .selectSteps id => TableName.steps.selected "execution_id" id (some "seq") rows
  | .selectUnfinished | .selectMigrations =>
      [("select", .text TableName.migrations.text), ("rows", .ofNat rows)]
  | .startExecution id startedAt => updatedExecution id "pending"
      [("status", .text "running"), ("started_at", .text startedAt.render)] rows
  | .finishExecution id f => updatedExecution id "running"
      [("status", .text f.status), ("error", .ofOption f.error), ("completed_at", .text f.completedAt.render),
        ("duration_ms", .ofInt f.durationMs)] rows
  | .timeMigration version =>
      [("update", .text TableName.migrations.text), ("where", .ofMembers [("version", .ofInt version)])]

/-- The JSON form of an entry. -/
def LogEntry.toJson : LogEntry → Json
  | .begun => .text "begin"
  | .committed => .text "commit"
  | .rolledBack => .text "rollback"
  | .executed s rows => .ofMembers (s.toJson rows)
  | .refused s code => .ofMembers (("error", .text code) :: s.toJson 0)

/-- The log in the order of time. -/
def Server.journal (s : Server) : List Json := s.log.reverse.map LogEntry.toJson

end WorkflowEngine
