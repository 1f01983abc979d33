/-
Module: WorkflowEngine.Proofs.Discretion
Layer: Proofs
Purpose: The texts of failures inside stay inside.  Two runs of an execution that fail at the same points, with
  whatever texts, leave the same records and tell their callers the same: no word of a transport, a mail server, a
  handler that breaks down or a database comes through (`texts_hidden`).
Imports: WorkflowEngine.Proofs.ScannedRuns, WorkflowEngine.Proofs.Separation,
  WorkflowEngine.Proofs.ServiceAnswers
Trusted boundary: none
Main exports: Executor.Reworded, Environment.Reworded, Likeness.reworded, World.LooksLike, HeardAlike, texts_hidden
-/
import WorkflowEngine.Proofs.ScannedRuns
import WorkflowEngine.Proofs.Separation
import WorkflowEngine.Proofs.ServiceAnswers

namespace WorkflowEngine

/-! ## Texts of failures -/

/-- Two failures of a store that differ in their texts: both say that there is no such row, or neither does. -/
def StoreFault.Reworded (f f' : StoreFault) : Prop := f = .notFound ↔ f' = .notFound

/-- Two ways in which a call goes wrong that differ in their texts. -/
inductive Effect.Reworded : Effect → Effect → Prop where
  | refuse {f f' : StoreFault} (texts : f.Reworded f') : Reworded (.refuse f) (.refuse f')
  | unacknowledged {f f' : StoreFault} (texts : f.Reworded f') : Reworded (.unacknowledged f) (.unacknowledged f')
  | lose : Reworded .lose .lose
  | crash : Reworded .crash .crash

/-- Two outcomes of a handler that are the same, or break down with different texts. -/
inductive Outcome.Reworded : Outcome → Outcome → Prop where
  | same (outcome : Outcome) : Reworded outcome outcome
  | panicked (text text' : String) : Reworded (.panicked text) (.panicked text')

/-- Two handlers that are the same, or are supplied and break down at the same points with different texts. -/
inductive Handler.Reworded : Handler → Handler → Prop where
  | same (h : Handler) : Reworded h h
  | supplied (name : String) {act act' : Config → ActionContext → Outcome}
      (outcomes : ∀ config context, (act config context).Reworded (act' config context)) :
      Reworded (.supplied name act) (.supplied name act')
  | stateful (name : String) {act act' : List (String × Config) → Config → ActionContext → Outcome}
      (outcomes : ∀ before config context, (act before config context).Reworded (act' before config context)) :
      Reworded (.stateful name act) (.stateful name act')

/-- Two executors with the same limits whose handlers differ in the texts with which they break down. -/
structure Executor.Reworded (x x' : Executor) : Prop where
  handlers (type : String) : Option.Rel Handler.Reworded (x.registry.find? type) (x'.registry.find? type)
  maxSteps : x.maxSteps = x'.maxSteps
  maxDelayMs : x.maxDelayMs = x'.maxDelayMs

/-- The status of a response, if one came in time. -/
def statusOf (told : Option (Except TransportFault Nat)) : Option Nat := told.bind Except.toOption

/-- Two environments in which the same fails, with different texts, sooner or later.  Ids may differ as well. -/
structure Environment.Reworded (env env' : Environment) : Prop where
  transport (before : List WebhookRequest) (request : WebhookRequest) (timeoutMs : Nat) :
    statusOf (World.waitFor timeoutMs (env.transport before request)).1 =
      statusOf (World.waitFor timeoutMs (env'.transport before request)).1
  mailer (before : List Mail) (mail : Mail) : (env.mailer before mail).toOption = (env'.mailer before mail).toOption
  faults (m : StoreMethod) (n : Nat) : Option.Rel Effect.Reworded (env.faults m n) (env'.faults m n)

/-! ## What two runs are told -/

variable {id : Uuid}

/-- Two runs of an execution may be told this at the same point, where failures differ in their texts. -/
inductive Line.Reworded (id : Uuid) : Line → Line → Prop where
  | clock (t t' : Instant) : Reworded id ⟨.clock, t⟩ ⟨.clock, t'⟩
  | freshId (i i' : Uuid) : Reworded id ⟨.freshId, i⟩ ⟨.freshId, i'⟩
  | sleep (nanoseconds : Nat) : Reworded id ⟨.sleep nanoseconds, ()⟩ ⟨.sleep nanoseconds, ()⟩
  | note (handler : String) (config : Config) (before : List (String × Config)) :
      Reworded id ⟨.note handler config, before⟩ ⟨.note handler config, before⟩
  | exchange (request : WebhookRequest) (timeoutMs : Nat) {a a' : Option (Except TransportFault Nat)}
      (status : statusOf a = statusOf a') :
      Reworded id ⟨.exchange request timeoutMs, a⟩ ⟨.exchange request timeoutMs, a'⟩
  | deliver (mail : Mail) {a a' : Except String Unit} (same : a.toOption = a'.toOption) :
      Reworded id ⟨.deliver mail, a⟩ ⟨.deliver mail, a'⟩
  | failed {c c' : StoreCall} {f f' : StoreFault} (texts : f.Reworded f') :
      Reworded id ⟨.store c, .error f⟩ ⟨.store c', .error f'⟩
  | served {c c' : StoreCall} {a : c.Answer} {a' : c'.Answer}
      (alike : Line.Alike id ⟨.store c, .ok a⟩ ⟨.store c', .ok a'⟩) :
      Reworded id ⟨.store c, .ok a⟩ ⟨.store c', .ok a'⟩

/-- The likeness by which the texts of failures pass for the same, besides ids and times. -/
def Likeness.reworded (id : Uuid) : Likeness id where
  lines := Line.Reworded id
  faults := StoreFault.Reworded
  replies told := by
    cases told with
    | failed texts => exact .inl ⟨_, _, rfl, rfl, texts⟩
    | served alike => exact .inr ⟨_, _, rfl, rfl, alike⟩
  missing like := like

theorem Line.Alike.reworded {c c' : StoreCall} {reply : StoreReply c} {reply' : StoreReply c'}
    (alike : Line.Alike id ⟨.store c, reply⟩ ⟨.store c', reply'⟩) :
    Line.Reworded id ⟨.store c, reply⟩ ⟨.store c', reply'⟩ := by
  rcases alike.replies with ⟨f, rfl, rfl⟩ | ⟨a, a', rfl, rfl⟩
  · exact .failed Iff.rfl
  · exact .served alike

/-! ## Handlers -/

theorem Outcome.Reworded.settled_eq {o o' : Outcome} (h : o.Reworded o') :
    Executor.settled o = Executor.settled o' := by
  cases h with
  | same => rfl
  | panicked => rfl

/-- What a handler comes to is recorded without the texts of what went wrong outside. -/
theorem Handler.run_reworded {h h' : Handler} (reworded : h.Reworded h') (config : Config) (context : ActionContext) :
    (h.run config context).InStep (.reworded id) (fun o o' => Executor.settled o = Executor.settled o')
      (h'.run config context) := by
  cases reworded with
  | supplied name outcomes => exact ⟨.incidental trivial, fun _ _ _ => (outcomes ..).settled_eq⟩
  | stateful name outcomes =>
      refine ⟨.incidental trivial, fun before before' told => ?_⟩
      cases told with
      | note => exact (outcomes ..).settled_eq
  | same =>
      cases h with
      | sendMessage => rfl
      | runAgent =>
          simp only [Handler.run]
          split <;> rfl
      | sendEmail =>
          refine ⟨.constant trivial, fun a a' told => ?_⟩
          cases told with
          | deliver _ same =>
              cases a with
              | ok =>
                  cases a' with
                  | ok => rfl
                  | error => cases same
              | error =>
                  cases a' with
                  | ok => cases same
                  | error => rfl
      | webhook timeoutMs =>
          simp only [Handler.run]
          split
          · rfl
          · refine ⟨.constant trivial, fun a a' told => ?_⟩
            cases told with
            | exchange _ _ status =>
                rcases a with _ | _ | s <;> rcases a' with _ | _ | s' <;> cases status <;> rfl
      | wait limitMs => exact ⟨.constant trivial, fun _ _ _ => rfl⟩
      | supplied name act => exact ⟨.incidental trivial, fun _ _ _ => rfl⟩
      | stateful name act =>
          refine ⟨.incidental trivial, fun before before' told => ?_⟩
          cases told with
          | note => rfl

theorem Executor.Reworded.likened {x x' : Executor} (h : x.Reworded x') : x.Likened (.reworded id) x' where
  dispatch type config context := by
    unfold Registry.dispatch
    cases type with
    | none => rfl
    | some name =>
        have found := h.handlers name
        simp only [Option.bind_some]
        generalize x.registry.find? name = handler at found ⊢
        generalize x'.registry.find? name = handler' at found ⊢
        cases found with
        | none => rfl
        | some reworded => exact Handler.run_reworded reworded config context
  maxSteps := h.maxSteps
  maxDelayMs := h.maxDelayMs

/-! ## Worlds -/

/-- To a run of an execution two worlds look alike: their stores do, and the same has happened in both. -/
structure World.LooksLike (id : Uuid) (w w' : World MemoryStore) : Prop where
  store : w.store.LooksLike id w'.store
  requests : w.requests = w'.requests
  mails : w.mails = w'.mails
  notes : w.notes = w'.notes
  calls : w.calls = w'.calls

/-- Two requests are answered alike but for texts, and afterwards the worlds look alike; or both callers break down. -/
inductive AnsweredReworded (id : Uuid) (r r' : Request) :
    Option (r.Answer × Nat) × World MemoryStore → Option (r'.Answer × Nat) × World MemoryStore → Prop where
  | told {a : r.Answer} {a' : r'.Answer} {ms ms' : Nat} {w w' : World MemoryStore}
      (line : Line.Reworded id ⟨r, a⟩ ⟨r', a'⟩) (looks : w.LooksLike id w') :
      AnsweredReworded id r r' (some (a, ms), w) (some (a', ms'), w')
  | broke {w w' : World MemoryStore} (looks : w.LooksLike id w') : AnsweredReworded id r r' (none, w) (none, w')

section Worlds

variable {env env' : Environment} {w w' : World MemoryStore}

namespace World

theorem answer_store_reworded {c c' : StoreCall} (reworded : env.Reworded env')
    (alike : Request.Alike id (.store c) (.store c')) (looks : w.LooksLike id w') :
    AnsweredReworded id (.store c) (.store c') (answer env (.store c) w) (answer env' (.store c') w') := by
  have method : c'.method = c.method := Option.some.inj alike.method?_eq.symm
  have count : w'.callCount c.method = w.callCount c.method := by rw [callCount, callCount, looks.calls]
  obtain ⟨line, after⟩ := looks.store.answer alike ⟨env.ids w.issued, w.now⟩ ⟨env'.ids w'.issued, w'.now⟩
  -- A call leaves its note in both worlds, whatever comes of it.
  have noted {s s' : MemoryStore} (store : s.LooksLike id s') (n n' : Nat) :
      LooksLike id { w with store := s, issued := n, calls := c.method :: w.calls }
        { w' with store := s', issued := n', calls := c.method :: w'.calls } :=
    ⟨store, looks.requests, looks.mails, looks.notes, by rw [looks.calls]⟩
  have effects := reworded.faults c.method (w.callCount c.method)
  simp only [answer, call, method, count]
  generalize env.faults c.method (w.callCount c.method) = effect at effects ⊢
  generalize env'.faults c.method (w.callCount c.method) = effect' at effects ⊢
  cases effects with
  | none => exact .told line.reworded (noted after _ _)
  | some effects =>
      cases effects with
      | refuse texts => exact .told (.failed texts) (noted looks.store _ _)
      | unacknowledged texts => exact .told (.failed texts) (noted after _ _)
      | crash => exact .broke (noted looks.store _ _)
      | lose =>
          cases alike with
          | start t t' => exact .told (.served (.start t t' _)) (noted looks.store _ _)
          | read | record | finish => exact .told line.reworded (noted after _ _)
          | incidental incidental => exact incidental.elim
          | constant constant =>
              cases c with
              | getWorkflow | listNodes | listEdges => exact .told line.reworded (noted after _ _)
              | _ => exact constant.elim

/-- Requests that are alike are answered alike but for texts, where environments differ in texts. -/
theorem answer_reworded {r r' : Request} (reworded : env.Reworded env') (alike : r.Alike id r')
    (looks : w.LooksLike id w') : AnsweredReworded id r r' (answer env r w) (answer env' r' w') := by
  cases alike with
  | read => exact answer_store_reworded reworded .read looks
  | start t t' => exact answer_store_reworded reworded (.start t t') looks
  | record own same => exact answer_store_reworded reworded (.record own same) looks
  | finish same => exact answer_store_reworded reworded (.finish same) looks
  | incidental incidental =>
      cases r with
      | clock => exact .told (.clock ..) looks
      | freshId => exact .told (.freshId ..) { looks with }
      | note handler config =>
          simp only [answer, looks.notes]
          exact .told (.note ..) { looks with notes := rfl }
      | _ => exact incidental.elim
  | constant constant =>
      cases r with
      | store c => exact answer_store_reworded reworded (.constant constant) looks
      | sleep nanoseconds => exact .told (.sleep nanoseconds) looks
      | exchange request timeoutMs =>
          simp only [answer, looks.requests]
          exact .told (.exchange _ _ (reworded.transport ..)) { looks with requests := rfl }
      | deliver mail =>
          have same := reworded.mailer w'.mails mail
          simp only [answer, looks.mails]
          generalize env.mailer w'.mails mail = told at same ⊢
          generalize env'.mailer w'.mails mail = told' at same ⊢
          cases told with
          | ok =>
              cases told' with
              | ok => exact .told (.deliver mail rfl) { looks with mails := rfl }
              | error => cases same
          | error =>
              cases told' with
              | ok => cases same
              | error => exact .told (.deliver mail rfl) looks
      | _ => exact constant.elim

end World

/-- Two processes in step end alike where environments differ in texts, and leave worlds that look alike. -/
theorem Process.InStep.run {α β : Type} {p : Process α} {q : Process β} {ends : α → β → Prop}
    (h : p.InStep (.reworded id) ends q) (reworded : env.Reworded env') (looks : w.LooksLike id w') :
    (p.run env w).2.LooksLike id (q.run env' w').2 ∧ Option.Rel ends (p.run env w).1 (q.run env' w').1 := by
  induction p generalizing q w w' with
  | done a =>
      cases q with
      | done b => exact ⟨looks, .some h⟩
      | ask => exact h.elim
  | ask r next ih =>
      cases q with
      | done => exact h.elim
      | ask r' next' =>
          have answers := World.answer_reworded reworded h.1 looks
          simp only [Process.run]
          generalize World.answer env r w = answer at answers ⊢
          generalize World.answer env' r' w' = answer' at answers ⊢
          cases answers with
          | broke looks => exact ⟨looks, .none⟩
          | told line looks => exact ih _ (h.2 _ _ line) { looks with }

end Worlds

/-! ## Runs -/

/-- Two callers are told the same, but for times: a summary or an error. -/
inductive HeardAlike : Option (Except EngineError Summary) → Option (Except EngineError Summary) → Prop where
  | summary {s s' : Summary} (same : s.timeless = s'.timeless) : HeardAlike (some (.ok s)) (some (.ok s'))
  | error {e e' : EngineError} (status : e.status = e'.status) (message : e.publicMessage = e'.publicMessage) :
      HeardAlike (some (.error e)) (some (.error e'))

/-- Callers are not told why the store failed. -/
theorem EngineError.Like.told {faults : StoreFault → StoreFault → Prop} {e e' : EngineError}
    (like : e.Like faults e') : e.status = e'.status ∧ e.publicMessage = e'.publicMessage := by
  cases like with
  | same => exact ⟨rfl, rfl⟩
  | store => exact ⟨rfl, rfl⟩

/-- Nor are they told why a run broke down. -/
theorem HeardAlike.of_rel {faults : StoreFault → StoreFault → Prop} {r r' : Option (Except EngineError Summary)}
    (h : Option.Rel (Task.EndLike faults fun s s' => s.timeless = s'.timeless) r r') (id : Uuid)
    (report report' : String) :
    HeardAlike (r <|> some (.error (.interrupted id report))) (r' <|> some (.error (.interrupted id report'))) := by
  cases h with
  | none =>
      have unsaid (report : String) : EngineError.publicMessage (.interrupted id report) = "internal error" :=
        EngineError.publicMessage_inside rfl
      exact .error rfl ((unsaid report).trans (unsaid report').symm)
  | some ended =>
      change HeardAlike (some _) (some _)
      cases ended with
      | ok same => exact .summary same
      | error like => exact .error like.told.1 like.told.2

namespace Service

/-- The response to the run of an execution follows from what its caller is told. -/
theorem respond_runOf {x : Executor} {env : Environment} {w : World MemoryStore} {request : HttpRequest}
    {segment : List Char} {text : String} (named : Resource.ofPath? request.path = some (.runOf segment))
    (decoded : Percent.decode? segment = some text.toList) (posted : request.method = "POST") :
    ((respond x request).run env w).1 =
      ((x.runNamed text).run.run env w).1.map fun r => shared (resultResponse 200 Summary.toJson r) := by
  have served : serve x request (.runOf segment) = answering 200 Summary.toJson (x.runNamed text) := by
    simp only [serve, Resource.id?, Option.getD_some, decoded, serveNamed, String.ofList_toList]
  rw [respond_posted named rfl posted, served, answering_wait, Option.map_map]
  rfl

/-- Callers that are told the same get the same response, unless it holds a summary. -/
theorem respond_alike {x x' : Executor} {env env' : Environment} {w w' : World MemoryStore} {request : HttpRequest}
    {segment : List Char} {text : String} (named : Resource.ofPath? request.path = some (.runOf segment))
    (decoded : Percent.decode? segment = some text.toList) (posted : request.method = "POST")
    (told : HeardAlike ((x.runNamed text).run.run env w).1 ((x'.runNamed text).run.run env' w').1) :
    ∃ response response', ((respond x request).run env w).1 = some response ∧
      ((respond x' request).run env' w').1 = some response' ∧ response.status = response'.status ∧
        (response.status ≠ 200 → response = response') := by
  rw [respond_runOf named decoded posted, respond_runOf named decoded posted]
  generalize ((x.runNamed text).run.run env w).1 = r at told ⊢
  generalize ((x'.runNamed text).run.run env' w').1 = r' at told ⊢
  cases told with
  | @summary s s' =>
      have granted (s : Summary) : (shared (resultResponse 200 Summary.toJson (.ok s))).status = 200 := rfl
      exact ⟨_, _, Option.map_some .., Option.map_some .., (granted s).trans (granted s').symm,
        fun other => absurd (granted s) other⟩
  | error status message =>
      refine ⟨_, _, Option.map_some .., Option.map_some .., ?_⟩
      simp only [resultResponse, errorResponse, status, message]
      exact ⟨trivial, fun _ => trivial⟩

end Service

/-- The texts of failures inside reach neither the records nor a caller.  Where two runs of an execution fail at the
same points, on the network, by mail, in their handlers or at the store, then they leave the same record and the same
steps, whatever the texts of the failures, and their callers are told the same, also over HTTP. -/
theorem texts_hidden {x x' : Executor} {env env' : Environment} {w w' : World MemoryStore} {id : Uuid} {text : String}
    (handlers : x.Reworded x') (outside : env.Reworded env') (looks : w.LooksLike id w')
    (named : Executor.readId text = .ok id) :
    let ran := (x.runNamed text).run.run env w
    let ran' := (x'.runNamed text).run.run env' w'
    SameRecords id ran.2.store ran'.2.store ∧ HeardAlike ran.1 ran'.1 ∧
      ∀ request segment, Resource.ofPath? request.path = some (.runOf segment) →
        Percent.decode? segment = some text.toList → request.method = "POST" →
        ∃ response response', ((Service.respond x request).run env w).1 = some response ∧
          ((Service.respond x' request).run env' w').1 = some response' ∧ response.status = response'.status ∧
            (response.status ≠ 200 → response = response') := by
  intro ran ran'
  have inStep : Task.InStep (.reworded id) (fun s s' => s.timeless = s'.timeless) (x.runAttached id)
      (x'.runAttached id) := Executor.runAttached_inStep handlers.likened
  obtain ⟨after, ended⟩ := Process.InStep.run inStep outside looks
  have told : HeardAlike ran.1 ran'.1 := by
    simp only [ran, ran', Executor.runNamed_run_eq _ named]
    exact .of_rel ended ..
  have records : SameRecords id ran.2.store ran'.2.store := by
    simp only [ran, ran', Executor.runNamed_run_eq _ named]
    exact after.store.records
  exact ⟨records, told, fun request segment path decoded posted => Service.respond_alike path decoded posted told⟩

/-! ## A sample -/

/-- The built-in handlers, but for messages: their handler breaks down. -/
def panicking (text : String) : Executor :=
  ⟨(Registry.builtins 1000 1000).register "send_message" (.supplied "fragile" fun _ _ => .panicked text), 5, 0⟩

theorem panicking_reworded (text text' : String) : (panicking text).Reworded (panicking text') where
  handlers type := by
    rcases eq_or_ne type "send_message" with rfl | other
    · exact .some (.supplied _ fun _ _ => .panicked text text')
    · have unchanged (text : String) : (panicking text).registry.find? type = (panicking "").registry.find? type := by
        have differs : (type == "send_message") = false := beq_false_of_ne other
        simp [panicking, Registry.find?, Registry.register, List.lookup_cons, differs]
      rw [unchanged text, unchanged text']
      cases (panicking "").registry.find? type with
      | none => exact .none
      | some h => exact .some (.same h)
  maxSteps := rfl
  maxDelayMs := rfl

/-- Nothing outside works: no host responds, no mail is delivered, and the store refuses some calls. -/
def failingWith (text : String) (refused : List StoreMethod) : Environment where
  transport _ _ := .answered 0 (.error (.client text))
  mailer _ _ := .error text
  faults m _ := if m ∈ refused then some (.refuse (.database (.unreachable text))) else none
  ids := Uuid.ofNat
  breakdown := text

theorem failingWith_reworded (text text' : String) (refused : List StoreMethod) :
    (failingWith text refused).Reworded (failingWith text' refused) where
  transport _ _ _ := by simp [failingWith, World.waitFor, statusOf, Except.toOption]
  mailer _ _ := rfl
  faults m n := by
    simp only [failingWith]
    split
    · exact .some (.refuse (by simp [StoreFault.Reworded]))
    · exact .none

/-- A workflow that takes one action, with settings for a mail and for a webhook. -/
def actionRows (type : String) : Rows where
  workflow := ⟨.nil, "act", 0⟩
  nodes := [⟨"start", .nil, "trigger", none, none, .null⟩,
    ⟨"act", .nil, "action", some type, none,
      .object [("to", .text "someone@example.org"), ("url", .text "https://example.org/")]⟩]
  edges := [⟨"e0", .nil, "start", "act", none⟩]

/-- A store that holds that workflow, and a pending execution of it. -/
def actionStore (type : String) : MemoryStore :=
  { MemoryStore.empty.putWorkflow (actionRows type) with
    executions := Table.empty.put messageExecution.id messageExecution }

/-- What its run comes to where what fails does so with a certain text. -/
def actionRun (type text : String) (refused : List StoreMethod) :
    Option (Except EngineError Summary) × World MemoryStore :=
  ((panicking text).runNamed messageExecution.id.render).run.run (failingWith text refused)
    (.start (actionStore type))

/-- The errors of the steps that it records. -/
def actionErrors (type text : String) (refused : List StoreMethod) : List (Option String) :=
  ((actionRun type text refused).2.store.stepsOf messageExecution.id).map StepRow.error

/-- The same, of a run with scans. -/
def scannedErrors (type text : String) : List (Option String) :=
  let ran := ((panicking text).scanRun messageExecution.id).run.run (failingWith text []) (.start (actionStore type))
  (ran.2.store.stepsOf messageExecution.id).map StepRow.error

/-- The run of the sample execution. -/
def runMessage : HttpRequest := ⟨"POST", "/api/v1/executions/00000000-0000-0000-0000-000000000001/run", [], []⟩

/-- The response to it. -/
def actionResponse (type text : String) (refused : List StoreMethod) : Option HttpResponse :=
  ((Service.respond (panicking text) runMessage).run (failingWith text refused) (.start (actionStore type))).1

/-- Two runs leave the same records, and an error of the engine's own wording in them. -/
def RecordedAs (type text text' message : String) : Prop :=
  SameRecords messageExecution.id (actionRun type text []).2.store (actionRun type text' []).2.store ∧
    actionErrors type text [] = [none, some message]

theorem texts_hidden_outside :
    RecordedAs "send_message" "index out of bounds" "unwrap on none" unexpectedNodeError ∧
      RecordedAs "send_email" "mailbox unavailable" "authentication failed" "Email delivery failed" ∧
      RecordedAs "webhook" "connection refused" "certificate expired" "Webhook request failed" ∧
      (actionResponse "webhook" "no route to host" [.insertStep]).map HttpResponse.status = some 500 ∧
      actionResponse "webhook" "no route to host" [.insertStep] =
        actionResponse "webhook" "relation does not exist" [.insertStep] := by
  have looks (type : String) :
      World.LooksLike messageExecution.id (.start (actionStore type)) (.start (actionStore type)) := by
    have own : messageExecution.id = messageExecution.id := rfl
    have filed : (actionStore type).Filed := MemoryStore.empty_filed.put own
    exact ⟨filed.looksLike _, rfl, rfl, rfl, rfl⟩
  have hidden (type text text' : String) (refused : List StoreMethod) :=
    texts_hidden (panicking_reworded text text') (failingWith_reworded text text' refused) (looks type) readId_message
  have path : Resource.ofPath? runMessage.path = some (.runOf messageExecution.id.render.toList) := by decide +kernel
  have decoded : Percent.decode? messageExecution.id.render.toList = some messageExecution.id.render.toList := by
    decide +kernel
  have errors (type text : String) : actionErrors type text [] = scannedErrors type text := by
    rw [actionErrors, actionRun, Executor.runNamed_run_eq _ readId_message, Executor.runAttached_eq_scanRun]
    rfl
  refine ⟨⟨(hidden ..).1, ?_⟩, ⟨(hidden ..).1, ?_⟩, ⟨(hidden ..).1, ?_⟩, ?_⟩
  · rw [errors]
    decide +kernel
  · rw [errors]
    decide +kernel
  · rw [errors]
    decide +kernel
  · obtain ⟨response, response', told, told', -, same⟩ :=
      (hidden "webhook" "no route to host" "relation does not exist" [.insertStep]).2.2 runMessage _ path decoded rfl
    have status : (actionResponse "webhook" "no route to host" [.insertStep]).map HttpResponse.status = some 500 := by
      decide +kernel
    refine ⟨status, ?_⟩
    rw [actionResponse, told, Option.map_some, Option.some_inj] at status
    rw [actionResponse, actionResponse, told, told', same (by rw [status]; decide)]

end WorkflowEngine
