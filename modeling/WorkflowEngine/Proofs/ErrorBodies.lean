/-
Module: WorkflowEngine.Proofs.ErrorBodies
Layer: Proofs
Purpose: Which refusals of the service explain themselves.  A refusal that the service writes is read back as an
  object with the reason and the status (`Service.refusal_explains`).  What is refused before the service is asked,
  because the id in the path is no text or the body is not the one expected, is answered in plain words instead
  (`Service.explains_iff`).
Imports: WorkflowEngine.Http.Service, WorkflowEngine.Proofs.Dialogue, WorkflowEngine.Proofs.GivenPayload,
  WorkflowEngine.Proofs.KeyOrder, WorkflowEngine.Proofs.WrittenJson
Trusted boundary: none
Main exports: HttpResponse.Explains, Service.Sends, Service.Legible, Service.refusal_explains, Service.explains_iff
-/
import WorkflowEngine.Http.Service
import WorkflowEngine.Proofs.Dialogue
import WorkflowEngine.Proofs.GivenPayload
import WorkflowEngine.Proofs.KeyOrder
import WorkflowEngine.Proofs.WrittenJson

namespace WorkflowEngine

namespace Json

/-- Nothing is read where the first character begins no value. -/
theorem ofText_of_letter {text : String} {c : Char} {rest : List Char} (starts : text.toList = c :: rest)
    (letter : c ∈ ['E', 'F', 'I']) : ofText text = .error (.here .expectedValue) := by
  have foreign : ∀ c ∈ ['E', 'F', 'I'], ∀ rest, skipBlanks (c :: rest) = c :: rest ∧ c ≠ '[' ∧ c ≠ '{' ∧
      readScalar c rest = .error .expectedValue := by
    simp only [List.forall_mem_cons, List.not_mem_nil, false_imp_iff, implies_true, and_true]
    exact ⟨fun _ => ⟨rfl, by decide, by decide, rfl⟩, fun _ => ⟨rfl, by decide, by decide, rfl⟩,
      fun _ => ⟨rfl, by decide, by decide, rfl⟩⟩
  have narrow : ∀ c ∈ ['E', 'F', 'I'], c.toNat < 0x80 := by
    simp only [List.forall_mem_cons, List.not_mem_nil, false_imp_iff, implies_true, and_true]
    decide
  obtain ⟨visible, list, object, unread⟩ := foreign c letter (rest.flatMap spell)
  rw [ofText, readValue, source_octets, starts, List.flatMap_cons, spell_narrow (narrow c letter),
    List.singleton_append, readValueFrom_scalar visible list object, unread]
  rfl

end Json

/-! ## Responses that explain themselves -/

namespace HttpResponse

/-- The body is an object that holds the reason as a text, and the status of the response. -/
def Explains (r : HttpResponse) : Prop :=
  ∃ members message, Json.ofText r.body = .ok (.object members) ∧
    Json.Object.find? members "error" = some (.text message) ∧
    Json.Object.find? members "status" = some (.ofNat r.status)

theorem not_explains_of_error {r : HttpResponse} {fault : Json.Located} (unread : Json.ofText r.body = .error fault) :
    ¬ r.Explains := by
  rintro ⟨members, message, read, -⟩
  cases unread.symm.trans read

theorem not_explains_of_letter {status : Nat} {body : String} {c : Char} {rest : List Char}
    (starts : body.toList = c :: rest) (letter : c ∈ ['E', 'F', 'I']) : ¬ (ofText status body).Explains :=
  not_explains_of_error (Json.ofText_of_letter starts letter)

end HttpResponse

namespace Service

/-- The statuses that the service refuses with. -/
def refusals : List Nat := [400, 404, 409, 500]

theorem status_mem_refusals (e : EngineError) : e.status ∈ refusals := by
  cases e <;> simp [EngineError.status, refusals]

theorem refusal_members (status : Nat) (message : String) :
    Json.Object.insert (Json.Object.insert [] "error" (.text message)) "status" (.ofNat status) =
      [("error", .text message), ("status", .ofNat status)] :=
  Json.Object.insert_after (by decide) (by decide)

theorem refusal_body (status : Nat) (message : String) : (refusal status message).body.toList =
    '{' :: ((Json.quote "error").toList ++ ':' :: (Json.quote message).toList ++
      (',' :: (Json.quote "status").toList ++ ':' :: (toString status).toList ++ ['}'])) := by
  have numeral : (Json.ofNat status).compact = toString status := rfl
  simp [refusal, HttpResponse.ofJson, Json.ofMembers, Json.Object.ofList, refusal_members, Json.compact,
    Json.compactMembers, numeral]

/-- What a reader sees of a refusal: two members, one after the other. -/
theorem refusal_seen (status : Nat) (message : String) : Json.source (octets (refusal status message).body) =
    '{' :: ((if true then [] else [',']) ++ (Json.quote "error").toList.flatMap Json.spell ++
      ':' :: (Json.quote message).toList.flatMap Json.spell ++
      ((if false then [] else [',']) ++ (Json.quote "status").toList.flatMap Json.spell ++
        ':' :: (toString status).toList ++ ['}'])) := by
  have mark : ∀ c ∈ ['{', ':', ',', '}'], Json.spell c = [c] := by
    simp only [List.forall_mem_cons, List.not_mem_nil, false_imp_iff, implies_true, and_true]
    exact ⟨Json.spell_narrow (by decide), Json.spell_narrow (by decide), Json.spell_narrow (by decide),
      Json.spell_narrow (by decide)⟩
  have digits : (toString status).toList.flatMap Json.spell = (toString status).toList := by
    apply Json.flatMap_spell_narrow
    intro c member
    have digit : c.isDigit = true := Nat.isDigit_of_mem_toDigits (b := 10) (by decide) (by decide)
      ((Nat.toList_repr (n := status)) ▸ member)
    simp only [Char.isDigit, Bool.and_eq_true, decide_eq_true_eq] at digit
    exact Nat.lt_of_le_of_lt (UInt32.le_iff_toNat_le.1 digit.2) (by decide)
  rw [Json.source_octets, refusal_body]
  simp only [List.flatMap_cons, List.flatMap_append, List.flatMap_nil, mark, digits, List.mem_cons, true_or, or_true,
    List.singleton_append, List.nil_append, List.append_nil, if_true, Bool.false_eq_true, if_false]

/-- What the service refuses with is read back. -/
theorem refusal_explains {status : Nat} (known : status ∈ refusals) (message : String) :
    (refusal status message).Explains := by
  have fits : ∀ n ∈ refusals, n < 2 ^ 64 := by decide
  have seen := refusal_seen status message
  generalize same : Json.source (octets (refusal status message).body) = cs at seen
  obtain ⟨fuel, enough⟩ : ∃ fuel, 2 * cs.length + 2 = fuel + 4 := by
    rw [seen]
    exact ⟨_, rfl⟩
  have plain : Json.embedded? cs.tail = none := by
    rw [seen, List.tail_cons, if_pos rfl, List.nil_append, List.append_assoc]
    exact Json.embedded?_quote (by decide)
  have inside : Json.readMembersFrom (fuel + 3) (128 - 1) true [] cs.tail =
      .ok ([("error", .text message), ("status", .ofNat status)], ['}']) := by
    rw [seen, List.tail_cons, Json.readMembersFrom_member (Json.readValueFrom_quote message),
      Json.readMembersFrom_member (Json.readValueFrom_numeral (fits status known)), refusal_members,
      Json.readMembersFrom_end]
  have read : Json.ofText (refusal status message).body =
      .ok (.object [("error", .text message), ("status", .ofNat status)]) := by
    have brace : cs = '{' :: cs.tail := by rw [seen, List.tail_cons]
    rw [Json.ofText, same, Json.readValue, enough, brace, Json.depthLimit,
      Json.readValueFrom_object (by decide) plain inside]
    rfl
  exact ⟨_, message, read, rfl, rfl⟩

/-! ## What a client is sent -/

/-- What the service can send in response to a request: what it comes to, whatever it is told on the way, or what it
makes of a report that the run which it has spawned broke down. -/
inductive Sends (x : Executor) (request : HttpRequest) : HttpResponse → Prop where
  | served {response : HttpResponse} (comes : (respond x request).process.Yields .any response) :
      Sends x request response
  | interrupted {report : String} {response : HttpResponse}
      (told : (respond x request).interrupted? report = some response) : Sends x request response

/-- The service can read the request: the id in its path is text, and the body that creates an execution is one. -/
structure Legible (request : HttpRequest) (resource : Resource) : Prop where
  id : ∃ id, Percent.decode? (resource.id?.getD []) = some id
  payload : ∀ workflow, resource = .executionsOf workflow → ∃ payload, readPayload request = .ok payload

variable {x : Executor} {request : HttpRequest} {resource : Resource} {response : HttpResponse}

theorem errorResponse_explains (e : EngineError) : (errorResponse e).Explains :=
  refusal_explains (status_mem_refusals e) e.publicMessage

theorem resultResponse_explains {α : Type} (status : Nat) (toJson : α → Json) (r : Except EngineError α) :
    (resultResponse status toJson r).status = status ∨ (resultResponse status toJson r).Explains := by
  cases r with
  | ok a => exact .inl rfl
  | error e => exact .inr (errorResponse_explains e)

theorem answering_yields {α : Type} {status : Nat} {toJson : α → Json} {task : Task α}
    (comes : (answering status toJson task).Yields .any response) : response.status = status ∨ response.Explains := by
  obtain ⟨result, -, rest⟩ := comes.of_bind
  cases (rest : resultResponse status toJson result = response)
  exact resultResponse_explains status toJson result

/-- An id that is none is refused with an explanation. -/
theorem readId_yields {kind text : String} {serve : Uuid → Process HttpResponse} {status : Nat}
    (served : ∀ id, (serve id).Yields .any response → response.status = status ∨ response.Explains)
    (comes : (orServe (readId kind text) serve).Yields .any response) :
    response.status = status ∨ response.Explains := by
  rw [readId] at comes
  split at comes
  · exact served _ comes
  · cases (comes : refusal 400 _ = response)
    exact .inr (refusal_explains (by decide) _)

/-- What the service can read is granted, or refused with an explanation. -/
theorem serve_legible (legible : Legible request resource)
    (comes : (serve x request resource).process.Yields .any response) :
    response.status < 400 ∨ response.Explains := by
  obtain ⟨⟨id, decoded⟩, payload⟩ := legible
  rw [serve, decoded] at comes
  cases resource with
  | health =>
      cases (comes : HttpResponse.ofJson 200 _ = response)
      exact .inl (by decide)
  | executionsOf workflow =>
      obtain ⟨value, read⟩ := payload workflow rfl
      simp only [serveNamed, read, orServe] at comes
      rcases readId_yields (fun _ => answering_yields) comes with granted | explained
      · exact .inl (by omega)
      · exact .inr explained
  | runOf _ =>
      simp only [serveNamed, answering, Awaited.process_map] at comes
      rcases answering_yields (α := Summary) comes with granted | explained
      · exact .inl (by omega)
      · exact .inr explained
  | execution _ =>
      rcases readId_yields (fun _ => answering_yields) comes with granted | explained
      · exact .inl (by omega)
      · exact .inr explained
  | stepsOf _ =>
      rcases readId_yields (fun _ => answering_yields) comes with granted | explained
      · exact .inl (by omega)
      · exact .inr explained

theorem bodyFault_unexplained (l : Json.Located) : ¬ (bodyFault l).Explains := by
  rw [bodyFault]
  split
  · exact HttpResponse.not_explains_of_letter (c := 'F') String.toList_append (by decide)
  · exact HttpResponse.not_explains_of_letter (c := 'F') String.toList_append (by decide)

theorem readPayload_unexplained {refused : HttpResponse} (unread : readPayload request = .error refused) :
    ¬ refused.Explains := by
  have comes := readPayload_read request
  rw [unread] at comes
  cases comes with
  | untyped => exact HttpResponse.not_explains_of_letter (c := 'E') rfl (by decide)
  | long => exact HttpResponse.not_explains_of_letter (c := 'F') rfl (by decide)
  | faulty fault => exact bodyFault_unexplained fault

/-- What the service cannot read is refused in plain words. -/
theorem serve_illegible (illegible : ¬ Legible request resource)
    (comes : (serve x request resource).process.Yields .any response) : ¬ response.Explains := by
  rw [serve] at comes
  split at comes
  · rename_i id decoded
    cases resource with
    | executionsOf workflow =>
        cases read : readPayload request with
        | ok payload =>
            exact absurd ⟨⟨id, decoded⟩, fun _ _ => ⟨payload, read⟩⟩ illegible
        | error refused =>
            simp only [serveNamed, read, orServe] at comes
            cases (comes : refused = response)
            exact readPayload_unexplained read
    | _ => exact absurd ⟨⟨id, decoded⟩, fun _ same => by cases same⟩ illegible
  · cases (comes : HttpResponse.ofText 400 _ = response)
    exact HttpResponse.not_explains_of_letter (c := 'I') rfl (by decide)

/-- A request for a resource under a method that the resource accepts is refused with an explanation exactly when the
service could read the request and may send a body. -/
theorem explains_iff (x : Executor) (request : HttpRequest) (resource : Resource)
    (named : Resource.ofPath? request.path = some resource) (accepted : resource.accepts request.method = true)
    (response : HttpResponse) (sent : Sends x request response) (refused : 400 ≤ response.status) :
    response.Explains ↔ request.method ≠ "HEAD" ∧ Legible request resource := by
  cases sent with
  | interrupted told =>
      obtain ⟨post, segment, text, id, run, decoded, rfl⟩ := respond_interrupted x told
      cases named.symm.trans run
      have head : request.method ≠ "HEAD" := by
        rw [post]
        decide
      have legible : Legible request (.runOf segment) := ⟨⟨text, decoded⟩, nofun⟩
      exact ⟨fun _ => ⟨head, legible⟩, fun _ => errorResponse_explains _⟩
  | served comes =>
      simp only [respond, named, accepted, if_true, Awaited.process_map] at comes
      obtain ⟨served, reached, rest⟩ := comes.of_bind
      have same : shared (Service.sent request served) = response := rest
      subst same
      by_cases head : request.method = "HEAD"
      · have empty : (shared (Service.sent request served)).body = "" := by
          rw [Service.sent, if_pos head]
          rfl
        have unread : Json.ofText (shared (Service.sent request served)).body = .error (.here .endInValue) := by
          rw [empty]
          simp [Json.ofText, octets, Json.source, Json.readValue, Json.readValueFrom, Json.skipBlanks, Json.readEnd,
            bind, Except.bind]
        exact ⟨fun explained => absurd explained (HttpResponse.not_explains_of_error unread),
          fun both => absurd head both.1⟩
      · have same : Service.sent request served = served := if_neg head
        rw [same] at refused ⊢
        constructor
        · intro explained
          refine ⟨head, ?_⟩
          by_cases legible : Legible request resource
          · exact legible
          · have unexplained : ¬ served.Explains := serve_illegible legible reached
            exact absurd explained unexplained
        · rintro ⟨-, legible⟩
          rcases serve_legible legible reached with granted | explained
          · exact absurd granted (Nat.not_lt.2 refused)
          · exact explained

/-- An execution is asked for under a name that is no id, and the refusal says so. -/
theorem explains_iff_unknown_id :
    let request : HttpRequest := ⟨"GET", "/api/v1/executions/latest", [], []⟩
    let response := shared (refusal 400 "invalid execution id: 'latest'")
    (Resource.ofPath? request.path = some (.execution "latest".toList) ∧
      Sends ⟨Registry.builtins 1000 1000, 100, 300000⟩ request response) ∧ response.Explains := by
  intro request response
  have named : Resource.ofPath? request.path = some (.execution "latest".toList) := by decide +kernel
  have accepted : (Resource.execution "latest".toList).accepts request.method = true := by decide +kernel
  have decoded : Percent.decode? "latest".toList = some "latest".toList := by decide +kernel
  have sent : Sends ⟨Registry.builtins 1000 1000, 100, 300000⟩ request response := by
    apply Sends.served
    have unknown : Uuid.read? "latest" = none := by decide +kernel
    simp only [respond, named, accepted, if_true, serve, Resource.id?, Option.getD_some, decoded, serveNamed,
      String.ofList_toList, readId, unknown, orServe]
    rfl
  have legible : Legible request (.execution "latest".toList) := ⟨⟨_, decoded⟩, fun _ same => by cases same⟩
  exact ⟨⟨named, sent⟩,
    (explains_iff _ request _ named accepted response sent (by decide)).2 ⟨by decide, legible⟩⟩

/-- An id that is no text is refused in plain words. -/
theorem broken_id_unexplained :
    ¬ ∀ (x : Executor) (request : HttpRequest) (resource : Resource) (response : HttpResponse),
      Resource.ofPath? request.path = some resource → resource.accepts request.method = true →
      request.method ≠ "HEAD" → Sends x request response → 400 ≤ response.status → response.Explains := by
  intro explains
  let request : HttpRequest := ⟨"GET", "/api/v1/executions/%FF", [], []⟩
  let refused : HttpResponse := .ofText 400 "Invalid URL: Invalid UTF-8 in `id`"
  have named : Resource.ofPath? request.path = some (.execution "%FF".toList) := by decide +kernel
  have accepted : (Resource.execution "%FF".toList).accepts request.method = true := by decide +kernel
  have broken : Percent.decode? "%FF".toList = none := by decide +kernel
  have sent : Sends ⟨Registry.builtins 1000 1000, 100, 300000⟩ request (shared refused) := by
    apply Sends.served
    simp only [respond, named, accepted, if_true, serve, Resource.id?, Option.getD_some, broken]
    rfl
  have unexplained : ¬ (HttpResponse.ofText 400 "Invalid URL: Invalid UTF-8 in `id`").Explains :=
    HttpResponse.not_explains_of_letter (c := 'I') rfl (by decide)
  have explained : (shared refused).Explains :=
    explains _ request _ (shared refused) named accepted (by decide) sent (by decide)
  exact unexplained explained

end Service

end WorkflowEngine
