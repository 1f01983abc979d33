/-
Module: WorkflowEngine.Workflow.Graph
Layer: Workflow
Purpose: The index of a workflow's graph, its trigger, and the choice of the next node.
Imports: Std.Data.HashMap, WorkflowEngine.Context, WorkflowEngine.Workflow.Basic
Trusted boundary: none
Main exports: Defect, Graph, Graph.ofWorkflow, Graph.node?, Graph.edgesFrom, Graph.trigger, Graph.next?
-/
import Std.Data.HashMap
import WorkflowEngine.Context
import WorkflowEngine.Workflow.Basic

/-!
# Graphs

A graph finds the node with an id and the edges that leave it without searching.  Of nodes with one id the
first counts; edges keep the order in which they were authored.
-/

namespace WorkflowEngine

/-- An end of an edge. -/
inductive Side where
  | source
  | target
  deriving DecidableEq, Repr

/-- The name of an end of an edge. -/
def Side.name : Side → String
  | .source => "source"
  | .target => "target"

/-- What is wrong with a workflow. -/
inductive Defect where
  | duplicateNodeId (id : String)
  | duplicateEdgeId (id : String)
  | unknownNode (id : String) (side : Side)
  | missingTrigger
  | multipleTriggers
  | reservedNodeId (id : String)
  | invalidCondition (nodeId expression : String)
  deriving DecidableEq, Repr

/-- The wording of a defect. -/
def Defect.message : Defect → String
  | .duplicateNodeId id => "duplicate node ID: '" ++ id ++ "'"
  | .duplicateEdgeId id => "duplicate edge ID: '" ++ id ++ "'"
  | .unknownNode id side => "edge references unknown node '" ++ id ++ "' (" ++ side.name ++ " side)"
  | .missingTrigger => "No trigger node found"
  | .multipleTriggers => "Multiple trigger nodes found"
  | .reservedNodeId id => "node ID '" ++ id ++ "' is reserved"
  | .invalidCondition id expression =>
      "condition on node '" ++ id ++ "' cannot be evaluated: '" ++ expression ++ "'"

/-- A workflow with its index. -/
structure Graph where
  workflow : Workflow
  nodes : Std.HashMap String Node
  outgoing : Std.HashMap String (List Edge)

namespace Graph

/-- The first node with each id. -/
def indexNodes (nodes : List Node) : Std.HashMap String Node :=
  nodes.foldl (fun index n => index.insertIfNew n.id n) ∅

/-- The edges that leave each node, in authored order. -/
def indexEdges (edges : List Edge) : Std.HashMap String (List Edge) :=
  edges.foldr (fun e index => index.insert e.source (e :: index.getD e.source [])) ∅

/-- The graph of a workflow. -/
def ofWorkflow (w : Workflow) : Graph := ⟨w, indexNodes w.nodes, indexEdges w.edges⟩

/-- The node with an id. -/
def node? (g : Graph) (id : String) : Option Node := g.nodes[id]?

/-- The edges that leave the node with an id. -/
def edgesFrom (g : Graph) (id : String) : List Edge := g.outgoing.getD id []

/-- The only trigger. -/
def trigger (g : Graph) : Except Defect Node :=
  match g.workflow.nodes.filter fun n => n.kind = .trigger with
  | [] => .error .missingTrigger
  | [n] => .ok n
  | _ => .error .multipleTriggers

/-- Refuses a node whose id is a key that a run writes itself. -/
def checkReserved (g : Graph) : Except Defect Unit :=
  match g.workflow.nodes.find? fun n => reservedKeys.contains n.id with
  | some n => .error (.reservedNodeId n.id)
  | none => .ok ()

/-- The first edge with a handle that leaves the node with an id. -/
def handled? (g : Graph) (id handle : String) : Option Edge :=
  (g.edgesFrom id).find? fun e => e.handle = some handle

/-- The edge to follow from a node.  A condition follows the edge whose handle names its result, or else one
with the handle `default`; any other node follows its first edge. -/
def edgeFrom? (g : Graph) (n : Node) (result : Option Bool) : Option Edge :=
  if n.kind = .condition then
    (g.handled? n.id (if result.getD false then "true" else "false")).or (g.handled? n.id "default")
  else (g.edgesFrom n.id).head?

/-- The node after a node.  An edge that leads to no node ends the run, as does having no edge to follow. -/
def next? (g : Graph) (n : Node) (result : Option Bool) : Option Node :=
  (g.edgeFrom? n result).bind fun e => g.node? e.target

end Graph

end WorkflowEngine
