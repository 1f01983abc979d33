/-
Module: WorkflowEngine.Store.Relational.Loading
Layer: Store
Purpose: Tables that hold given rows from the start.
Imports: WorkflowEngine.Store.Relational.Tables
Trusted boundary: none
Main exports: Tables.load, Tables.ofJson
-/
import WorkflowEngine.Store.Relational.Tables

/-!
# Loading rows

Rows are given as JSON objects with a member for each column, and loaded without checks.  A column that is left
out has the default of its table, or is unset.
-/

namespace WorkflowEngine

/-- A row that is given, by its columns. -/
structure GivenRow where
  columns : Json.Object

namespace GivenRow

/-- A column. -/
def column? (r : GivenRow) (name : String) : Option Json := r.columns.find? name

/-- A column of text. -/
def text? (r : GivenRow) (name : String) : Option String := (r.column? name).bind Json.text?

/-- A column of text that is set. -/
def text (r : GivenRow) (name : String) : String := (r.text? name).getD ""

/-- A column that holds an id. -/
def uuid (r : GivenRow) (name : String) : Uuid := (Uuid.readAny (r.text name).toList).toOption.getD .nil

/-- A column that holds a whole number. -/
def integer? (r : GivenRow) (name : String) : Option Int :=
  match r.column? name with
  | some (.number (.integer i)) => some i
  | _ => none

/-- A column that holds JSON, by default an empty object. -/
def json (r : GivenRow) (name : String) : Json := (r.column? name).getD (.object [])

/-- A column that holds a point of time; any text is taken for the start of time. -/
def instant? (r : GivenRow) (name : String) : Option Instant := (r.text? name).map fun _ => 0

end GivenRow

namespace TableName

/-- All tables. -/
def all : List TableName := [.workflows, .nodes, .edges, .executions, .steps, .migrations]

/-- The table with a name. -/
def read? (name : String) : Option TableName := all.find? (·.text = name)

end TableName

namespace Tables

/-- Adds a row to a table. -/
def load (t : Tables) (table : TableName) (r : GivenRow) : Tables :=
  match table with
  | .workflows => { t with workflows := t.workflows ++ [⟨r.uuid "id", r.text "name", 0⟩] }
  | .nodes =>
      let node : NodeRow := ⟨r.text "id", r.uuid "workflow_id", r.text "node_type", r.text? "action_type",
        r.text? "label", r.json "config"⟩
      { t with nodes := t.nodes ++ [⟨node, (r.integer? "position").getD 0⟩] }
  | .edges =>
      let edge : EdgeRow := ⟨r.text "id", r.uuid "workflow_id", r.text "source_node_id",
        r.text "target_node_id", r.text? "source_handle"⟩
      { t with edges := t.edges ++ [⟨edge, (r.integer? "position").getD 0⟩] }
  | .executions =>
      let execution : ExecutionRow := ⟨r.uuid "id", r.uuid "workflow_id", r.json "trigger_data",
        (r.text? "status").getD "pending", r.text? "error", r.instant? "started_at",
        r.instant? "completed_at", r.integer? "duration_ms", 0⟩
      { t with executions := t.executions ++ [execution] }
  | .steps =>
      let step : StepRow := ⟨r.uuid "id", r.uuid "execution_id", r.text "node_id", r.text "status",
        r.json "input", r.json "output", r.text? "error", 0, 0⟩
      let place := (r.integer? "seq").getD t.nextStep
      { t with steps := t.steps ++ [⟨step, place⟩], nextStep := max t.nextStep (place + 1) }
  | .migrations =>
      let success := ((r.column? "success").bind Json.bool?).getD true
      { t with migrations := t.migrations ++ [⟨(r.integer? "version").getD 0, success, false⟩] }

/-- Adds the rows of a table, which exists afterwards. -/
def loadAll (t : Tables) (table : TableName) (rows : List Json) : Tables :=
  let existing := if t.existing.contains table then t.existing else t.existing ++ [table]
  rows.foldl (fun t row => t.load table ⟨row.members?.getD []⟩) { t with existing }

/-- Tables with the rows of an object, in which each table has a member. -/
def ofJson (t : Tables) (tables : Json.Object) : Tables :=
  tables.foldl (fun t (name, rows) =>
    match TableName.read? name, rows with
    | some table, .list rows => t.loadAll table rows
    | _, _ => t) t

end Tables

end WorkflowEngine
