/-
Module: WorkflowEngine.Context
Layer: Execution
Purpose: What the nodes of a run can see: the payload and the outputs so far.
Imports: WorkflowEngine.Json.Value
Trusted boundary: none
Main exports: Context, Context.new, Context.withOutput, Context.withConditionResult, Context.summary
-/
import WorkflowEngine.Json.Value

/-!
# Contexts

A context is never changed in place: each step makes a new one out of the old one and its output, so what a
step saw is what there was when it ran.
-/

namespace WorkflowEngine

/-- The key of the payload. -/
def payloadKey : String := "trigger_data"

/-- The key of the latest result of a condition. -/
def conditionResultKey : String := "condition_result"

/-- The keys that a run writes itself; no node may have one as its id. -/
def reservedKeys : List String := [payloadKey, conditionResultKey]

/-- What the nodes of a run can see. -/
structure Context where
  entries : Json.Object
  deriving DecidableEq, Repr

namespace Context

/-- A context that holds nothing. -/
def empty : Context := ⟨[]⟩

/-- The context at the start of a run. -/
def new (payload : Json) : Context := ⟨[(payloadKey, payload)]⟩

/-- The value under a key. -/
def find? (c : Context) (key : String) : Option Json := c.entries.find? key

/-- A new context with the output of a node; an earlier output of that node is replaced. -/
def withOutput (c : Context) (nodeId : String) (output : Json) : Context :=
  ⟨c.entries.insert nodeId output⟩

/-- A new context with the result of a condition. -/
def withConditionResult (c : Context) (result : Bool) : Context :=
  c.withOutput conditionResultKey (.bool result)

/-- The latest result of a condition. -/
def conditionResult? (c : Context) : Option Bool := (c.find? conditionResultKey).bind Json.bool?

/-- The keys that can be seen, in order. -/
def keys (c : Context) : List String := c.entries.keys

/-- What a step records of the context it saw: the keys, not the values. -/
def summary (c : Context) : Json := .object [("context_keys", .list (c.keys.map .text))]

end Context

end WorkflowEngine
