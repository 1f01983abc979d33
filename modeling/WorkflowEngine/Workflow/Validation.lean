/-
Module: WorkflowEngine.Workflow.Validation
Layer: Workflow
Purpose: The check of a workflow before it is stored, and the nodes that a run can reach.
Imports: WorkflowEngine.Action.Config, WorkflowEngine.Condition.Expression, WorkflowEngine.Workflow.Graph
Trusted boundary: none
Main exports: Workflow.validate, Graph.reachable
-/
import WorkflowEngine.Action.Config
import WorkflowEngine.Condition.Expression
import WorkflowEngine.Workflow.Graph

/-!
# Validation

A workflow is valid if its node ids are distinct and not reserved, its edge ids are distinct, its edges join
nodes, it has exactly one trigger, and the condition of every branch can be read.  Of several defects the
first in that order is reported, node by node and edge by edge.
-/

namespace WorkflowEngine

/-- Checks the ids of nodes; `seen` holds those before. -/
def checkNodeIds : (seen : List String) → List Node → Except Defect Unit
  | _, [] => .ok ()
  | seen, n :: rest =>
      if reservedKeys.contains n.id then .error (.reservedNodeId n.id)
      else if seen.contains n.id then .error (.duplicateNodeId n.id)
      else checkNodeIds (n.id :: seen) rest

/-- Checks the ids and the ends of edges; `seen` holds the ids before. -/
def checkEdges (nodeIds : List String) : (seen : List String) → List Edge → Except Defect Unit
  | _, [] => .ok ()
  | seen, e :: rest =>
      if seen.contains e.id then .error (.duplicateEdgeId e.id)
      else if !nodeIds.contains e.source then .error (.unknownNode e.source .source)
      else if !nodeIds.contains e.target then .error (.unknownNode e.target .target)
      else checkEdges nodeIds (e.id :: seen) rest

/-- The text of a branch's condition. -/
def Node.conditionText (n : Node) : String := Config.string n.config "condition"

/-- Checks the conditions of branches. -/
def checkConditions : List Node → Except Defect Unit
  | [] => .ok ()
  | n :: rest =>
      if n.kind = .condition ∧ Expression.read? n.conditionText.toList = none then
        .error (.invalidCondition n.id n.conditionText)
      else checkConditions rest

namespace Graph

/-- The ids that a list of edges leads to for the first time, in order; `visited` holds those before. -/
def discover : (visited : List String) → List Edge → List String
  | _, [] => []
  | visited, e :: rest =>
      if visited.contains e.target then discover visited rest
      else e.target :: discover (e.target :: visited) rest

/-- Walks the graph in breadth: every id in the queue is reached, and the ids that its edges lead to are
queued if they have not been met.  No more ids can be met than there are edges, and one. -/
def search (g : Graph) : (fuel : Nat) → (visited queue : List String) → List String
  | 0, _, _ => []
  | _, _, [] => []
  | fuel + 1, visited, id :: queue =>
      let found := discover visited (g.edgesFrom id)
      id :: g.search fuel (visited ++ found) (queue ++ found)

/-- The ids that can be reached from a node, in breadth-first order. -/
def reachable (g : Graph) (start : String) : List String :=
  g.search (g.workflow.edges.length + 1) [start] [start]

end Graph

/-- Checks a workflow and lists the ids that a run can reach. -/
def Workflow.validate (w : Workflow) : Except Defect (List String) := do
  checkNodeIds [] w.nodes
  checkEdges (w.nodes.map (·.id)) [] w.edges
  let g := Graph.ofWorkflow w
  let trigger ← g.trigger
  checkConditions w.nodes
  .ok (g.reachable trigger.id)

end WorkflowEngine
