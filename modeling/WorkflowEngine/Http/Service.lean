/-
Module: WorkflowEngine.Http.Service
Layer: Http
Purpose: The HTTP service that creates, runs and shows executions.
Imports: WorkflowEngine.Execution.Executor, WorkflowEngine.Http.MediaType, WorkflowEngine.Http.Message,
  WorkflowEngine.Http.Route, WorkflowEngine.Json.Decoder
Trusted boundary: none
Main exports: Service.respond
-/
import WorkflowEngine.Execution.Executor
import WorkflowEngine.Http.MediaType
import WorkflowEngine.Http.Message
import WorkflowEngine.Http.Route
import WorkflowEngine.Json.Decoder

/-!
# The service

Errors of the engine are answered with their status and what a caller is told; nothing about failures inside is
shown.  A run that failed is no error.  Every response may be read from any origin, and every `OPTIONS` request
is answered for any origin, method and header.
-/

namespace WorkflowEngine.Service

/-! ## Bodies -/

/-- The longest body, in bytes. -/
def bodyLimit : Nat := 2097152

/-- The body that creates an execution: its payload, empty if it is not given. -/
def payloadRecord : Json.Record (Option Json) Json where
  name := "CreateExecutionDto"
  fields := [⟨"trigger_data", Option.isSome, Json.Decoder.any.map fun v _ => some v⟩]
  empty := none
  complete _ draft := .ok (draft.getD (.object []))

/-- Why a body is refused. -/
def bodyFault (l : Json.Located) : HttpResponse :=
  match l.fault with
  | .malformed _ => .ofText 400 ("Failed to parse the request body as JSON: " ++ l.message)
  | .misshapen _ => .ofText 422 ("Failed to deserialize the JSON body into the target type: " ++ l.message)

/-- Reads the body that creates an execution. -/
def readPayload (r : HttpRequest) : Except HttpResponse Json :=
  let type := (r.header? "content-type").bind MediaType.read?
  if !type.any MediaType.isJson then
    .error (.ofText 415 "Expected request with `Content-Type: application/json`")
  else if bodyLimit < r.body.length then
    .error (.ofText 413 "Failed to buffer the request body: length limit exceeded")
  else (payloadRecord.decoder.readBytes r.body).mapError bodyFault

/-! ## Responses -/

/-- The response to a request that is not served. -/
def refusal (status : Nat) (message : String) : HttpResponse :=
  .ofJson status (.ofMembers [("error", .text message), ("status", .ofNat status)])

/-- The response to an error of the engine. -/
def errorResponse (e : EngineError) : HttpResponse := refusal e.status e.publicMessage

/-- The response to a result. -/
def resultResponse {α : Type} (status : Nat) (toJson : α → Json) : Except EngineError α → HttpResponse
  | .ok a => .ofJson status (toJson a)
  | .error e => errorResponse e

/-- The response to what comes of a task, or of waiting for one. -/
def answering {F : Type → Type} [Functor F] {α : Type} (status : Nat) (toJson : α → Json)
    (task : ExceptT EngineError F α) : F HttpResponse :=
  resultResponse status toJson <$> task.run

/-- Reads an id of something. -/
def readId (kind text : String) : Except HttpResponse Uuid :=
  match Uuid.read? text with
  | some id => .ok id
  | none => .error (refusal 400 ("invalid " ++ kind ++ " id: '" ++ text ++ "'"))

/-- What is already known, or else a process. -/
def orServe {α : Type} (known : Except HttpResponse α) (serve : α → Process HttpResponse) :
    Process HttpResponse :=
  match known with
  | .ok a => serve a
  | .error response => .done response

variable (x : Executor)

/-- Serves a resource whose id is decoded. -/
def serveNamed (request : HttpRequest) (id : String) : Resource → Awaited HttpResponse
  | .health => .known (.ofJson 200 (.ofMembers [("status", .text "ok")]))
  | .executionsOf _ => .inline <|
      orServe (readPayload request) fun payload =>
        orServe (readId "workflow" id) fun workflow =>
          answering 201 Execution.toJson (Executor.create workflow payload)
  | .runOf _ => answering 200 Summary.toJson (x.runNamed id)
  | .execution _ => .inline <|
      orServe (readId "execution" id) fun id => answering 200 Execution.toJson (Executor.get id)
  | .stepsOf _ => .inline <|
      orServe (readId "execution" id) fun id =>
        answering 200 (fun steps => .list (steps.map Step.toJson)) (Executor.steps id)

/-- Serves a resource. -/
def serve (request : HttpRequest) (resource : Resource) : Awaited HttpResponse :=
  match Percent.decode? (resource.id?.getD []) with
  | some id => serveNamed x request (String.ofList id) resource
  | none => .known (.ofText 400 "Invalid URL: Invalid UTF-8 in `id`")

/-! ## Requests -/

/-- Lets any origin read a response. -/
def shared (r : HttpResponse) : HttpResponse := r.withHeader "access-control-allow-origin" "*"

/-- The response to a request whether any other request may be made. -/
def permission : HttpResponse :=
  ((shared (.empty 200)).withHeader "access-control-allow-methods" "*").withHeader
    "access-control-allow-headers" "*"

/-- The response to a method that a resource does not accept. -/
def otherMethod (request : HttpRequest) (resource : Resource) : HttpResponse :=
  (if request.method = "OPTIONS" then permission else shared (.empty 405)).withHeader "allow" resource.allowed

/-- A response as it is sent: without its body if the method asks for none. -/
def sent (request : HttpRequest) (r : HttpResponse) : HttpResponse :=
  if request.method = "HEAD" then { r with body := "" } else r

/-- Responds to a request.  A client that goes away drops what the service does for it, but for a run. -/
def respond (request : HttpRequest) : Awaited HttpResponse :=
  match Resource.ofPath? request.path with
  | none => .known (if request.method = "OPTIONS" then permission else shared (.empty 404))
  | some resource =>
      if resource.accepts request.method then
        (fun response => shared (sent request response)) <$> serve x request resource
      else .known (otherMethod request resource)

/-- Only a run is spawned, and its breakdown is answered as a failure inside. -/
theorem respond_interrupted {request : HttpRequest} {report : String} {response : HttpResponse}
    (told : (respond x request).interrupted? report = some response) :
    request.method = "POST" ∧ ∃ segment text id, Resource.ofPath? request.path = some (.runOf segment) ∧
      Percent.decode? segment = some text ∧ response = shared (errorResponse (.interrupted id report)) := by
  rw [respond] at told
  split at told
  · cases told
  · rename_i resource named
    split at told
    · rename_i accepted
      rw [Awaited.interrupted?_map, Option.map_eq_some_iff] at told
      obtain ⟨served, told, rfl⟩ := told
      rw [serve] at told
      split at told
      · rename_i text decoded
        cases resource with
        | runOf segment =>
            have post : request.method = "POST" := of_decide_eq_true accepted
            have whole (response : HttpResponse) : sent request response = response :=
              if_neg (by rw [post]; decide)
            rw [serveNamed, answering, Awaited.interrupted?_map, Executor.runNamed] at told
            split at told
            · rename_i id read
              cases told
              exact ⟨post, segment, text, id, named, decoded, by rw [whole]; rfl⟩
            · cases told
        | _ => cases told
      · cases told
    · cases told

end WorkflowEngine.Service
