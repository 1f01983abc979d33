/-
Module: WorkflowEngine.Action.Output
Layer: Action
Purpose: What actions put out, and why they fail.
Imports: WorkflowEngine.Json.Value
Trusted boundary: none
Main exports: ActionOutput, ActionOutput.toJson, ActionFault
-/
import WorkflowEngine.Json.Value

/-!
# Results of actions
-/

namespace WorkflowEngine

/-- What an action puts out. -/
inductive ActionOutput where
  | messageSent (message : String)
  | agentStarted (agentId : String)
  | emailSent (recipient subject : String)
  | webhookCalled (status : Nat)
  | waited (delayMs : Nat)
  /-- Any value, from a handler that is not built in. -/
  | custom (value : Json)
  | empty
  deriving DecidableEq, Repr

/-- The JSON form of an output. -/
def ActionOutput.toJson : ActionOutput → Json
  | .messageSent message => .ofMembers [("message_sent", .bool true), ("message", .text message)]
  | .agentStarted id => .ofMembers [("agent_started", .bool true), ("agent_id", .text id)]
  | .emailSent recipient subject =>
      .ofMembers [("email_sent", .bool true), ("to", .text recipient), ("subject", .text subject)]
  | .webhookCalled status => .ofMembers [("webhook_called", .bool true), ("status", .ofNat status)]
  | .waited ms => .ofMembers [("waited", .bool true), ("delay", .ofNat ms)]
  | .custom value => value
  | .empty => .object []

/-- Why an action fails. -/
inductive ActionFault where
  /-- Its settings were refused before anything was done. -/
  | rejected (message : String)
  /-- What it tried did not work. -/
  | failed (message : String)
  deriving DecidableEq, Repr

/-- What the step records. -/
def ActionFault.message : ActionFault → String
  | .rejected m => m
  | .failed m => m

end WorkflowEngine
