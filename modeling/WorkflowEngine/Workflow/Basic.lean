/-
Module: WorkflowEngine.Workflow.Basic
Layer: Workflow
Purpose: Nodes, edges and workflows, and the rows that a store keeps of them.
Imports: WorkflowEngine.Instant, WorkflowEngine.Json.Value, WorkflowEngine.Uuid
Trusted boundary: none
Main exports: NodeKind, Node, Edge, Workflow, WorkflowRow, NodeRow, EdgeRow
-/
import WorkflowEngine.Instant
import WorkflowEngine.Json.Value
import WorkflowEngine.Uuid

/-!
# Workflows

A workflow is a list of nodes and a list of edges between them, both in the order in which they were
authored.  A store keeps them as rows, in which the type of a node is plain text and its configuration any
JSON value.
-/

namespace WorkflowEngine

/-! ## Rows -/

/-- The header of a stored workflow. -/
structure WorkflowRow where
  id : Uuid
  name : String
  createdAt : Instant
  deriving DecidableEq, Repr

/-- A stored node. -/
structure NodeRow where
  id : String
  workflowId : Uuid
  type : String
  actionType : Option String
  label : Option String
  config : Json
  deriving DecidableEq, Repr

/-- A stored edge. -/
structure EdgeRow where
  id : String
  workflowId : Uuid
  source : String
  target : String
  handle : Option String
  deriving DecidableEq, Repr

/-- The JSON form of the header of a workflow. -/
def WorkflowRow.toJson (w : WorkflowRow) : Json :=
  .ofMembers [("id", .text w.id.render), ("name", .text w.name),
    ("created_at", .text (Instant.render w.createdAt))]

/-- The JSON form of a stored node. -/
def NodeRow.toJson (n : NodeRow) : Json :=
  .ofMembers [("id", .text n.id), ("workflow_id", .text n.workflowId.render), ("node_type", .text n.type),
    ("action_type", .ofOption n.actionType), ("label", .ofOption n.label), ("config", n.config)]

/-- The JSON form of a stored edge. -/
def EdgeRow.toJson (e : EdgeRow) : Json :=
  .ofMembers [("id", .text e.id), ("workflow_id", .text e.workflowId.render),
    ("source_node_id", .text e.source), ("target_node_id", .text e.target), ("source_handle", .ofOption e.handle)]

/-! ## The graph -/

/-- What a node does when a run reaches it. -/
inductive NodeKind where
  /-- The entry, which puts out the payload. -/
  | trigger
  /-- A side effect, looked up by its action type. -/
  | action (type : Option String)
  /-- A branch. -/
  | condition
  /-- A pause. -/
  | delay
  /-- The end of a run. -/
  | terminal
  /-- A type that is not known; such a node is passed through. -/
  | other (type : String)
  deriving DecidableEq, Repr

namespace NodeKind

/-- The kind of a node of the given type.  Only action nodes have an action type. -/
def ofParts (type : String) (actionType : Option String) : NodeKind :=
  match type with
  | "trigger" => .trigger
  | "action" => .action actionType
  | "condition" => .condition
  | "delay" => .delay
  | "end" => .terminal
  | unknown => .other unknown

/-- The type of a node of this kind. -/
def type : NodeKind → String
  | .trigger => "trigger"
  | .action _ => "action"
  | .condition => "condition"
  | .delay => "delay"
  | .terminal => "end"
  | .other type => type

end NodeKind

/-- A node of a workflow. -/
structure Node where
  id : String
  kind : NodeKind
  label : Option String
  config : Json.Object
  deriving DecidableEq, Repr

/-- An edge of a workflow.  Its handle is read only where it leaves a condition. -/
structure Edge where
  id : String
  source : String
  target : String
  handle : Option String
  deriving DecidableEq, Repr

/-- A workflow. -/
structure Workflow where
  id : Uuid
  name : String
  nodes : List Node
  edges : List Edge
  deriving DecidableEq, Repr

/-- The node that a row stands for.  A configuration that is no object counts as empty. -/
def NodeRow.toNode (row : NodeRow) : Node :=
  ⟨row.id, .ofParts row.type row.actionType, row.label, row.config.members?.getD []⟩

/-- The edge that a row stands for. -/
def EdgeRow.toEdge (row : EdgeRow) : Edge := ⟨row.id, row.source, row.target, row.handle⟩

/-- The workflow that rows make up. -/
def Workflow.ofRows (row : WorkflowRow) (nodes : List NodeRow) (edges : List EdgeRow) : Workflow :=
  ⟨row.id, row.name, nodes.map NodeRow.toNode, edges.map EdgeRow.toEdge⟩

end WorkflowEngine
