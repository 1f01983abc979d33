/-
Module: WorkflowEngine.Execution.Output
Layer: Execution
Purpose: What the visit of a node puts out.
Imports: WorkflowEngine.Action.Output
Trusted boundary: none
Main exports: NodeOutput, NodeOutput.toJson, NodeOutput.conditionResult?
-/
import WorkflowEngine.Action.Output

/-!
# Outputs of nodes

Each kind of node puts out a value of its own shape, which goes into the step log and the context.
-/

namespace WorkflowEngine

/-- What the visit of a node puts out. -/
inductive NodeOutput where
  | trigger (payload : Json)
  | action (output : ActionOutput)
  | condition (result : Bool) (expression : String)
  | delay (seconds : Binary64)
  | terminal
  | passed
  deriving DecidableEq, Repr

/-- A double as a JSON number, null if it is not finite. -/
def Json.ofBinary64 (x : Binary64) : Json := if x.isFinite then .number (.float x) else .null

namespace NodeOutput

/-- The result of a condition. -/
def conditionResult? : NodeOutput → Option Bool
  | .condition result _ => some result
  | _ => none

/-- The JSON form of an output. -/
def toJson : NodeOutput → Json
  | .trigger payload => payload
  | .action output => output.toJson
  | .condition result expression =>
      .ofMembers [("condition_result", .bool result), ("expression", .text expression)]
  | .delay seconds => .ofMembers [("delayed", .bool true), ("seconds", .ofBinary64 seconds)]
  | .terminal => .object [("ended", .bool true)]
  | .passed => .object []

end NodeOutput

end WorkflowEngine
