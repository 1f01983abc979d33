/-
Module: WorkflowEngine.Proofs.CanonicalIds
Layer: Proofs
Purpose: Ids as callers name them.  The engine, the service and the action that starts agents take the same texts for
  the same ids (`Denotes`), and turn away all others (`DenotesNothing`).  The texts of an id are its canonical text in
  every letter case, and no text is one of two ids (`ids_canonical`).
Imports: WorkflowEngine.Http.Service, WorkflowEngine.Proofs.UuidSpellings
Trusted boundary: none
Main exports: Service.Asks, Denotes, DenotesNothing, denotes_iff_read, denotesNothing_iff_read, ids_canonical
-/
import WorkflowEngine.Http.Service
import WorkflowEngine.Proofs.UuidSpellings

namespace WorkflowEngine

namespace Service

/-- A request asks for a resource of what a text names: a segment of its path stands for the text, and its method may be
used on the resource. -/
def Asks (request : HttpRequest) (resource : List Char → Resource) (text : String) : Prop :=
  ∃ segment, Resource.ofPath? request.path = some (resource segment) ∧
    Percent.decode? segment = some text.toList ∧ (resource segment).accepts request.method = true

/-- A response as it reaches the client. -/
def delivered (request : HttpRequest) (response : HttpResponse) : HttpResponse := shared (sent request response)

variable {x : Executor} {request : HttpRequest} {resource : List Char → Resource} {text : String}

/-- What is asked for is answered as the resource is served under the text. -/
theorem respond_asked {served : Awaited HttpResponse} (asks : Asks request resource text)
    (named : ∀ segment, (resource segment).id? = some segment)
    (serves : ∀ segment, serveNamed x request text (resource segment) = served) :
    respond x request = delivered request <$> served := by
  obtain ⟨segment, path, decoded, accepted⟩ := asks
  simp only [respond, path, accepted, if_true, serve, named, Option.getD_some, decoded, String.ofList_toList, serves]
  rfl

/-- What the service does itself under the text is done for the client. -/
theorem respond_inline {served : Process HttpResponse} (asks : Asks request resource text)
    (named : ∀ segment, (resource segment).id? = some segment)
    (serves : ∀ segment, serveNamed x request text (resource segment) = .inline served) :
    respond x request = .inline (delivered request <$> served) :=
  respond_asked asks named serves

/-- What is turned away under the text is turned away at once. -/
theorem respond_refused {refused : HttpResponse} (asks : Asks request resource text)
    (named : ∀ segment, (resource segment).id? = some segment)
    (serves : ∀ segment, serveNamed x request text (resource segment) = .known refused) :
    respond x request = .known (delivered request refused) :=
  respond_asked asks named serves

end Service

open Service

/-- A text stands for an id with everyone who is given ids as texts: the engine runs the execution of that id, the
service serves the workflow or the execution of that id, and an agent is started under its canonical text. -/
structure Denotes (text : String) (id : Uuid) : Prop where
  runs : ∀ x : Executor, x.runNamed text = x.run id
  created : ∀ (x : Executor) (request : HttpRequest), Asks request .executionsOf text →
    respond x request = .inline (delivered request <$> orServe (readPayload request) fun payload =>
      answering 201 Execution.toJson (Executor.create id payload))
  ran : ∀ (x : Executor) (request : HttpRequest), Asks request .runOf text →
    respond x request = delivered request <$> answering 200 Summary.toJson (x.run id)
  shown : ∀ (x : Executor) (request : HttpRequest), Asks request .execution text →
    respond x request = .inline (delivered request <$> answering 200 Execution.toJson (Executor.get id))
  listed : ∀ (x : Executor) (request : HttpRequest), Asks request .stepsOf text →
    respond x request = .inline (delivered request <$>
      answering 200 (fun steps => .list (steps.map Step.toJson)) (Executor.steps id))
  agent : ∀ (config : Config) (context : ActionContext), Config.text? config "agent_id" = some text →
    Handler.runAgent.run config context = .done (.ok (.agentStarted id.render))

/-- A text stands for no id: whoever is given it turns it away and asks nothing of the store. -/
structure DenotesNothing (text : String) : Prop where
  runs : ∀ x : Executor, x.runNamed text = ExceptT.mk (.known (.error (.invalidExecutionId text)))
  created : ∀ (x : Executor) (request : HttpRequest), Asks request .executionsOf text →
    respond x request = .inline (delivered request <$> orServe (readPayload request) fun _ =>
      .done (refusal 400 ("invalid workflow id: '" ++ text ++ "'")))
  refused : ∀ (x : Executor) (request : HttpRequest),
    Asks request .runOf text ∨ Asks request .execution text ∨ Asks request .stepsOf text →
      respond x request = .known (delivered request (refusal 400 ("invalid execution id: '" ++ text ++ "'")))
  agent : ∀ (config : Config) (context : ActionContext), Config.text? config "agent_id" = some text →
    Handler.runAgent.run config context = .done (.rejected "Invalid agent_id: expected a UUID")

section Given

variable {text : String} {id : Uuid}

theorem Service.readId_ok (read : Uuid.read? text = some id) (kind : String) : readId kind text = .ok id := by
  rw [readId, read]

theorem Service.readId_error (unread : Uuid.read? text = none) (kind : String) :
    readId kind text = .error (refusal 400 ("invalid " ++ kind ++ " id: '" ++ text ++ "'")) := by
  rw [readId, unread]

theorem denotes_of_read (read : Uuid.read? text = some id) : Denotes text id where
  runs x := by rw [Executor.runNamed, Executor.readId, read]
  created x request asks := by
    refine respond_inline asks (fun _ => rfl) fun segment => ?_
    simp only [serveNamed, readId_ok read]
    rfl
  ran x request asks := by
    refine respond_asked asks (fun _ => rfl) fun segment => ?_
    rw [serveNamed, Executor.runNamed, Executor.readId, read]
  shown x request asks := by
    refine respond_inline asks (fun _ => rfl) fun segment => ?_
    rw [serveNamed, readId_ok read]
    rfl
  listed x request asks := by
    refine respond_inline asks (fun _ => rfl) fun segment => ?_
    rw [serveNamed, readId_ok read]
    rfl
  agent config context given := by rw [Handler.run, given, Option.bind_some, read]

theorem denotesNothing_of_read (unread : Uuid.read? text = none) : DenotesNothing text where
  runs x := by rw [Executor.runNamed, Executor.readId, unread]
  created x request asks := by
    refine respond_inline asks (fun _ => rfl) fun segment => ?_
    simp only [serveNamed, readId_error unread]
    rfl
  refused x request asks := by
    rcases asks with asks | asks | asks
    · refine respond_refused asks (fun _ => rfl) fun segment => ?_
      rw [serveNamed, Executor.runNamed, Executor.readId, unread]
      rfl
    · refine respond_refused asks (fun _ => rfl) fun segment => ?_
      rw [serveNamed, readId_error unread]
      rfl
    · refine respond_refused asks (fun _ => rfl) fun segment => ?_
      rw [serveNamed, readId_error unread]
      rfl
  agent config context given := by rw [Handler.run, given, Option.bind_some, unread]

/-- The settings of an agent that is named by a text. -/
def agentSettings (text : String) : Config := .ofList [("agent_id", .text text)]

theorem text?_agentSettings : Config.text? (agentSettings text) "agent_id" = some text := by
  simp [Config.text?, agentSettings, Json.Object.ofList, Json.Object.find?_insert, Json.text?]

/-- A text stands for the id that is read from it, and for no other. -/
theorem denotes_iff_read : Denotes text id ↔ Uuid.read? text = some id := by
  refine ⟨fun denotes => ?_, denotes_of_read⟩
  have started := denotes.agent (agentSettings text) ⟨.nil, .nil, "", .null⟩ text?_agentSettings
  cases read : Uuid.read? text with
  | none =>
      have rejected := (denotesNothing_of_read read).agent _ ⟨.nil, .nil, "", .null⟩ text?_agentSettings
      cases rejected.symm.trans started
  | some other =>
      have again := (denotes_of_read read).agent _ ⟨.nil, .nil, "", .null⟩ text?_agentSettings
      have same := again.symm.trans started
      simp only [Process.done.injEq, Outcome.ok, Outcome.finished.injEq, Except.ok.injEq,
        ActionOutput.agentStarted.injEq] at same
      rw [Uuid.render_injective same]

/-- A text stands for no id exactly if none is read from it. -/
theorem denotesNothing_iff_read : DenotesNothing text ↔ Uuid.read? text = none := by
  refine ⟨fun nothing => ?_, denotesNothing_of_read⟩
  rw [Option.eq_none_iff_forall_ne_some]
  intro id read
  have started := (denotes_of_read read).agent (agentSettings text) ⟨.nil, .nil, "", .null⟩ text?_agentSettings
  cases started.symm.trans (nothing.agent _ _ text?_agentSettings)

end Given

/-- The texts that stand for a common id are those of the canonical shape that differ in letter case alone. -/
theorem denotes_common_iff {text other : String} :
    (∃ id, Denotes text id ∧ Denotes other id) ↔ Uuid.Shaped text.toList ∧ text.toLower = other.toLower := by
  simp only [denotes_iff_read]
  constructor
  · rintro ⟨id, read, again⟩
    exact ⟨Uuid.shaped_iff_read.2 ⟨id, read⟩, (Uuid.read?_iff_render.1 read).symm.trans (Uuid.read?_iff_render.1 again)⟩
  · rintro ⟨shaped, same⟩
    obtain ⟨id, read⟩ : ∃ id, Uuid.read? text = some id := Uuid.shaped_iff_read.1 shaped
    exact ⟨id, read, Uuid.read?_iff_render.2 ((Uuid.read?_iff_render.1 read).trans same)⟩

/-- Ids have one canonical text.  A text is read as an id exactly if it has the canonical shape, which leaves one of the
spellings that files may use; the id is displayed as the text in lower case, and what is displayed is read as that id.
Everyone who is given a text takes it for the id that is read from it, and for no other.  Texts stand for a common id
exactly if they differ in letter case alone, and no two ids are displayed alike. -/
theorem ids_canonical :
    (∀ text : String,
      Uuid.read? text = (if text.utf8ByteSize = 36 then (Uuid.readAny text.toList).toOption else none) ∧
      ((∃ id, Uuid.read? text = some id) ↔ Uuid.Shaped text.toList) ∧
      (∀ id, (Uuid.read? text = some id ↔ id.render = text.toLower) ∧ (Uuid.read? text = some id ↔ Denotes text id)) ∧
      (Uuid.read? text = none ↔ DenotesNothing text)) ∧
    (∀ id : Uuid, Uuid.read? id.render = some id) ∧
    (∀ text other : String, (∃ id, Denotes text id ∧ Denotes other id) ↔
      Uuid.Shaped text.toList ∧ text.toLower = other.toLower) ∧
    Function.Injective Uuid.render := by
  refine ⟨fun text => ?_, Uuid.read?_render, fun text other => denotes_common_iff, Uuid.render_injective⟩
  refine ⟨Uuid.read?_eq text, Uuid.shaped_iff_read.symm, fun id => ?_, denotesNothing_iff_read.symm⟩
  exact ⟨Uuid.read?_iff_render, denotes_iff_read.symm⟩

/-- An execution is asked for under its id in capital letters. -/
def capitals : HttpRequest := ⟨"GET", "/api/v1/executions/67E55044-10B1-426F-9247-BB680E5FE0C8", [], []⟩

theorem ids_canonical_capitals :
    Asks capitals .execution "67E55044-10B1-426F-9247-BB680E5FE0C8" ∧
      ∃ id : Uuid, id.render = "67e55044-10b1-426f-9247-bb680e5fe0c8" ∧
        ∀ x, respond x capitals = .inline (delivered capitals <$> answering 200 Execution.toJson (Executor.get id)) := by
  have asks : Asks capitals .execution "67E55044-10B1-426F-9247-BB680E5FE0C8" :=
    ⟨"67E55044-10B1-426F-9247-BB680E5FE0C8".toList, by decide +kernel, by decide +kernel, by decide +kernel⟩
  let id : Uuid := .ofNat 0x67e5504410b1426f9247bb680e5fe0c8
  have render : id.render = "67e55044-10b1-426f-9247-bb680e5fe0c8" := by decide +kernel
  have lower : id.render = "67E55044-10B1-426F-9247-BB680E5FE0C8".toLower := by decide +kernel
  obtain ⟨-, -, stands, -⟩ := ids_canonical.1 "67E55044-10B1-426F-9247-BB680E5FE0C8"
  have denotes := (stands id).2.1 ((stands id).1.2 lower)
  exact ⟨asks, id, render, fun x => denotes.shown x capitals asks⟩

end WorkflowEngine
