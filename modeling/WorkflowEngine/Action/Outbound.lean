/-
Module: WorkflowEngine.Action.Outbound
Layer: Action
Purpose: What actions send out: webhook requests and mail.
Imports: WorkflowEngine.Action.Method, WorkflowEngine.Json.Value, WorkflowEngine.Network.Url.Basic
Trusted boundary: none
Main exports: WebhookRequest, TransportFault, Exchange, Mail
-/
import WorkflowEngine.Action.Method
import WorkflowEngine.Json.Value
import WorkflowEngine.Network.Url.Basic

/-!
# What actions send out
-/

namespace WorkflowEngine

/-- A request that a webhook makes. -/
structure WebhookRequest where
  method : Method
  url : Url
  headers : List (String × String)
  body : Json
  deriving DecidableEq, Repr

/-- Why a request got no response. -/
inductive TransportFault where
  | client (reason : String)
  | request (reason : String)
  | blocked (reason : String)
  deriving DecidableEq, Repr

/-- The wording of a transport fault. -/
def TransportFault.message : TransportFault → String
  | .client reason => "could not build http client: " ++ reason
  | .request reason => "http request failed: " ++ reason
  | .blocked reason => "refused to connect: " ++ reason

/-- What comes of a request: a status or a fault after some milliseconds, or nothing at all. -/
inductive Exchange where
  | answered (afterMs : Nat) (result : Except TransportFault Nat)
  | silent

/-- A mail. -/
structure Mail where
  recipient : String
  subject : String
  body : String
  deriving DecidableEq, Repr

end WorkflowEngine
