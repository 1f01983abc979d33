/-
Module: WorkflowEngine.Action.Handler
Layer: Action
Purpose: The handlers of actions, built in or supplied, and the registry that finds them.
Imports: WorkflowEngine.Action.Output, WorkflowEngine.Network.Screening, WorkflowEngine.Process
Trusted boundary: none
Main exports: ActionContext, Outcome, Handler, Handler.run, Registry, Registry.builtins, Registry.dispatch
-/
import WorkflowEngine.Action.Output
import WorkflowEngine.Network.Screening
import WorkflowEngine.Process

/-!
# Handlers

An action node names its handler.  Five handlers are built in; others can be supplied.  An action without a
handler does nothing.  What goes wrong outside is recorded in general words only, so that nothing about the
inside of a mail server or another host leaks into the audit trail.
-/

namespace WorkflowEngine

/-- What a handler is told about the run besides its settings. -/
structure ActionContext where
  workflowId : Uuid
  executionId : Uuid
  nodeId : String
  payload : Json
  deriving DecidableEq, Repr

/-- How a handler ends: with a result, or by breaking down. -/
inductive Outcome where
  | finished (result : Except ActionFault ActionOutput)
  | panicked (message : String)

namespace Outcome

/-- A handler that succeeds. -/
def ok (output : ActionOutput) : Outcome := .finished (.ok output)

/-- A handler that refuses its settings. -/
def rejected (message : String) : Outcome := .finished (.error (.rejected message))

/-- A handler that fails. -/
def failed (message : String) : Outcome := .finished (.error (.failed message))

end Outcome

/-- The handler of an action. -/
inductive Handler where
  | sendMessage
  | runAgent
  | sendEmail
  | webhook (timeoutMs : Nat)
  | wait (limitMs : Nat)
  /-- A handler whose result depends on its settings and the run alone. -/
  | supplied (name : String) (act : Config → ActionContext → Outcome)
  /-- A handler that keeps a state: its result depends on the calls of supplied handlers before it as well. -/
  | stateful (name : String) (act : List (String × Config) → Config → ActionContext → Outcome)

/-! ## Webhooks -/

/-- The headers of a webhook: the settings that are texts, numbers or booleans. -/
def webhookHeaders (config : Config) : List (String × String) :=
  let headers := ((Json.Object.find? config "headers").bind Json.members?).getD []
  headers.filterMap fun (name, value) =>
    match value with
    | .text s => some (name, s)
    | .number n => some (name, n.render)
    | .bool b => some (name, if b then "true" else "false")
    | _ => none

/-- The method of a webhook, `POST` if the settings name none. -/
def webhookMethod (config : Config) : Except String Method :=
  match Json.Object.find? config "method" with
  | none | some .null => .ok .post
  | some (.text s) => match Method.read? s with
      | some m => .ok m
      | none => .error ("Unsupported webhook method '" ++ s ++ "'")
  | some _ => .error "Webhook method must be a string"

/-- What a webhook tells about the run. -/
def webhookBody (context : ActionContext) : Json :=
  .ofMembers [("workflow_id", .text context.workflowId.render),
    ("execution_id", .text context.executionId.render), ("trigger_data", context.payload)]

/-- The request of a webhook, or why its settings are refused. -/
def webhookRequest (config : Config) (context : ActionContext) : Except String WebhookRequest :=
  match (Config.text? config "url").filter fun u => !(trim u.toList).isEmpty with
  | none => .error "Webhook URL is required"
  | some raw =>
      match checkUrl raw with
      | .error _ => .error "Webhook URL is not allowed: only public http(s) addresses may be called"
      | .ok url =>
          (webhookMethod config).map fun method =>
            ⟨method, url, webhookHeaders config, webhookBody context⟩

/-! ## Running a handler -/

/-- The longest message, mail address and subject, in characters. -/
def messageLimit : Nat := 10000
def addressLimit : Nat := 255
def subjectLimit : Nat := 500

/-- The mail that settings describe. -/
def mailOf (config : Config) : Mail :=
  ⟨truncated (Config.string config "to") addressLimit, truncated (Config.string config "subject") subjectLimit,
    truncated (Config.string config "body") messageLimit⟩

/-- The milliseconds to wait: at least none, and at most the limit. -/
def waitMs (config : Config) (limitMs : Nat) : Nat :=
  (((Config.number? config "delay").getD .zero).clamp .zero (.ofNat limitMs)).wholePart (Nat.pow 2 64 - 1)

/-- Runs a handler. -/
def Handler.run (config : Config) (context : ActionContext) : Handler → Process Outcome
  | .sendMessage => .done (.ok (.messageSent (truncated (Config.string config "message") messageLimit)))
  | .runAgent =>
      match (Config.text? config "agent_id").bind Uuid.read? with
      | some id => .done (.ok (.agentStarted id.render))
      | none => .done (.rejected "Invalid agent_id: expected a UUID")
  | .sendEmail => do
      let mail := mailOf config
      match ← Process.request (.deliver mail) with
      | .ok () => return .ok (.emailSent mail.recipient mail.subject)
      | .error _ => return .failed "Email delivery failed"
  | .webhook timeoutMs =>
      match webhookRequest config context with
      | .error message => .done (.rejected message)
      | .ok request => do
          match ← Process.request (.exchange request timeoutMs) with
          | some (.ok status) => return .ok (.webhookCalled status)
          | some (.error _) | none => return .failed "Webhook request failed"
  | .wait limitMs => do
      let ms := waitMs config limitMs
      let () ← Process.request (.sleep (ms * 1000000))
      return .ok (.waited ms)
  | .supplied name act => do
      let _ ← Process.request (.note name config)
      return act config context
  | .stateful name act => do
      let before ← Process.request (.note name config)
      return act before config context

/-! ## The registry -/

/-- Handlers by the type of their action. -/
structure Registry where
  handlers : List (String × Handler)

namespace Registry

/-- A registry that holds nothing. -/
def empty : Registry := ⟨[]⟩

/-- The handler of a type of action. -/
def find? (r : Registry) (type : String) : Option Handler := r.handlers.lookup type

/-- Registers a handler in place of one for the same type. -/
def register (r : Registry) (type : String) (h : Handler) : Registry :=
  ⟨(type, h) :: r.handlers.filter (·.1 ≠ type)⟩

/-- The built-in handlers. -/
def builtins (webhookTimeoutMs waitLimitMs : Nat) : Registry :=
  ⟨[("send_message", .sendMessage), ("run_agent", .runAgent), ("send_email", .sendEmail),
    ("webhook", .webhook webhookTimeoutMs), ("wait", .wait waitLimitMs)]⟩

/-- Runs the handler of an action; an action without one puts out nothing. -/
def dispatch (r : Registry) (type : Option String) (config : Config) (context : ActionContext) :
    Process Outcome :=
  match type.bind r.find? with
  | some h => h.run config context
  | none => .done (.ok .empty)

end Registry

end WorkflowEngine
