/-
Module: WorkflowEngine.Proofs.ServiceAnswers
Layer: Proofs
Purpose: What the service answers where no call to the store fails, in every state that requests can reach.  A request
  that is refused changes nothing, a new execution is the one that was asked for, and the run of an execution is
  answered as the execution stands (`Service.request_answered`).
Imports: WorkflowEngine.Proofs.GivenPayload, WorkflowEngine.Proofs.RefusedRequests,
  WorkflowEngine.Proofs.UuidText, WorkflowEngine.Proofs.ValidRuns
Trusted boundary: none
Main exports: Service.Names, Service.Standing, Service.Created, Service.Ran, Service.Answered, Service.request_answered
-/
import WorkflowEngine.Proofs.GivenPayload
import WorkflowEngine.Proofs.RefusedRequests
import WorkflowEngine.Proofs.UuidText
import WorkflowEngine.Proofs.ValidRuns

namespace WorkflowEngine

variable {env : Environment} {x : Executor}

/-! ## Executions that are there -/

namespace Ledger

variable {ι : Type} {first : Nat} {w : World MemoryStore} {D : ι → Dialogue}

/-- An execution that is there is found under its id. -/
theorem row_id (h : Ledger env first w D) {id : Uuid} {row : ExecutionRow}
    (there : w.store.executions.find? id = some row) : row.id = id := by
  obtain ⟨n, workflowId, payload, now, -, -, -, account⟩ := h.created there
  cases account with
  | idle free holds =>
      cases there.symm.trans holds.row
      rfl
  | held base_eq pending holder only holds =>
      cases base_eq
      cases there.symm.trans holds.row
      exact Dialogue.written_id ..

/-- Nothing is there under the next id. -/
theorem next_unused (h : Ledger env first w D) (begun : first ≤ w.issued)
    (distinct : Set.InjOn env.ids (Set.Ico first (w.issued + 1))) : w.store.Holds (env.ids w.issued) none [] := by
  rcases h.accounts (env.ids w.issued) with account | ⟨n, workflowId, payload, now, from_, before, same, -⟩
  · cases account with
    | idle free holds => exact holds
    | held base_eq => cases base_eq
  · have again : w.issued = n := distinct ⟨begun, by omega⟩ ⟨from_, by omega⟩ same
    omega

end Ledger

/-! ## Runs of single requests -/

section Running

variable {w : World MemoryStore}

theorem load_run_absent (faultless : env.Faultless) {id : Uuid} (missing : w.store.executions.find? id = none) :
    (load id).run.run env w = (some (.error (.executionNotFound id)), w.noted .getExecution) := by
  have told : World.call env (.getExecution id) w = (some (.error .notFound), w.noted .getExecution) := by
    refine World.call_read faultless _ rfl ?_
    simp only [MemoryStore.answer, missing]
    rfl
  rw [load, Task.run_bind_of_ok (Task.run_ask told)]
  rfl

namespace Executor

theorem runAttached_absent (faultless : env.Faultless) {id : Uuid} (missing : w.store.executions.find? id = none) :
    (x.runAttached id).run.run env w = (some (.error (.executionNotFound id)), w.noted .getExecution) :=
  Task.run_bind_of_error (load_run_absent faultless missing)

/-- The run of an execution that is not pending any more is turned away. -/
theorem runAttached_late (faultless : env.Faultless) {base : ExecutionRow}
    (there : w.store.executions.find? base.id = some base) {e : Execution} (read : base.toExecution = .ok e)
    (late : e.status ≠ .pending) :
    (x.runAttached base.id).run.run env w =
      (some (.error (.alreadyStarted e.id e.status.name)), w.noted .getExecution) := by
  have loaded := load_run faultless there
  rw [read] at loaded
  rw [runAttached, Task.run_bind_of_ok loaded]
  apply Task.run_bind_of_error
  rw [start, if_pos late]
  rfl

theorem create_run_absent (faultless : env.Faultless) {workflowId : Uuid} (payload : Json)
    (missing : w.store.workflows.find? workflowId = none) :
    (create workflowId payload).run.run env w =
      (some (.error (.workflowNotFound workflowId)), w.noted .getWorkflow) := by
  have told : World.call env (.getWorkflow workflowId) w = (some (.error .notFound), w.noted .getWorkflow) := by
    refine World.call_read faultless _ rfl ?_
    simp only [MemoryStore.answer, missing]
    rfl
  rw [create, Task.run_bind_of_ok (Task.run_ask told)]
  rfl

/-- A new execution is put under the next id, and nothing else changes in the store. -/
theorem create_run (faultless : env.Faultless) {workflowId : Uuid} (payload : Json) {workflow : WorkflowRow}
    (there : w.store.workflows.find? workflowId = some workflow) :
    let row := ExecutionRow.new (env.ids w.issued) workflowId payload w.now
    ∃ e w', row.toExecution = .ok e ∧ (create workflowId payload).run.run env w = (some (.ok e), w') ∧
      w'.store = { w.store with executions := w.store.executions.put row.id row } ∧ w'.issued = w.issued + 1 := by
  intro row
  have told : World.call env (.getWorkflow workflowId) w = (some (.ok workflow), w.noted .getWorkflow) := by
    refine World.call_read faultless _ rfl ?_
    simp only [MemoryStore.answer, there]
    rfl
  have added := World.call_faultless faultless (.createExecution workflowId payload) (w.noted .getWorkflow)
  rw [create, Task.run_bind_of_ok (Task.run_ask told)]
  simp only
  rw [Task.run_bind_of_ok (Task.run_call added)]
  exact ⟨_, _, rfl, rfl, rfl, rfl⟩

end Executor

end Running

/-! ## Summaries -/

/-- The JSON form of a summary tells whether the run succeeded. -/
theorem Summary.find?_success (s : Summary) :
    Json.Object.find? (.ofList [("success", .bool s.success), ("execution_id", .text s.executionId.render),
      ("duration_ms", .ofInt s.durationMs), ("steps_executed", .ofNat s.stepsExecuted)]) "success" =
      some (.bool s.success) := by
  simp [Json.Object.ofList, Json.Object.find?_insert]

namespace Service

variable {request : HttpRequest} {resource : Resource} {segment : List Char} {w w' : World MemoryStore}

/-! ## Ids in paths -/

/-- A segment of a path names an id: decoded, it is the canonical text of the id in some letter case. -/
def Names (segment : List Char) (id : Uuid) : Prop :=
  ∃ text, Percent.decode? segment = some text ∧ text.map Char.toLower = id.chars

theorem names_iff {text : List Char} {id : Uuid} (decoded : Percent.decode? segment = some text) :
    Names segment id ↔ Uuid.read? (String.ofList text) = some id := by
  rw [Uuid.read?_eq_some, String.toList_ofList]
  constructor
  · rintro ⟨other, again, canonical⟩
    cases decoded.symm.trans again
    exact canonical
  · exact fun canonical => ⟨text, decoded, canonical⟩

theorem Names.unique {id other : Uuid} (h : Names segment id) (k : Names segment other) : id = other := by
  have ⟨text, decoded, _⟩ := h
  have read := (names_iff decoded).1 h
  exact Option.some.inj (read.symm.trans ((names_iff decoded).1 k))

/-! ## What requests come to -/

/-- The status that the run of what a segment names is answered with, as things stand in a store. -/
inductive Standing (segment : List Char) (s : MemoryStore) : Nat → Prop where
  | pending {id : Uuid} {row : ExecutionRow} (names : Names segment id) (there : s.executions.find? id = some row)
      (status : row.status = ExecutionStatus.pending.name) : Standing segment s 200
  | begun {id : Uuid} {row : ExecutionRow} (names : Names segment id) (there : s.executions.find? id = some row)
      (status : row.status = ExecutionStatus.running.name ∨ row.status = ExecutionStatus.completed.name ∨
        row.status = ExecutionStatus.failed.name) : Standing segment s 409
  | absent {id : Uuid} (names : Names segment id) (missing : s.executions.find? id = none) : Standing segment s 404
  | nameless (none : ¬ ∃ id, Names segment id) : Standing segment s 400

/-- Things stand in one way. -/
theorem Standing.unique {s : MemoryStore} {a b : Nat} (h : Standing segment s a) (k : Standing segment s b) :
    a = b := by
  have apart {row : ExecutionRow} (pending : row.status = ExecutionStatus.pending.name)
      (begun : row.status = ExecutionStatus.running.name ∨ row.status = ExecutionStatus.completed.name ∨
        row.status = ExecutionStatus.failed.name) : False := by
    rw [pending] at begun
    exact absurd begun (by decide)
  cases h with
  | nameless none =>
      cases k with
      | nameless => rfl
      | pending names | begun names | absent names => exact absurd ⟨_, names⟩ none
  | absent names missing =>
      cases k with
      | nameless none => exact absurd ⟨_, names⟩ none
      | absent => rfl
      | pending again there | begun again there =>
          cases names.unique again
          cases missing.symm.trans there
  | begun names there status =>
      cases k with
      | nameless none => exact absurd ⟨_, names⟩ none
      | begun => rfl
      | absent again missing =>
          cases names.unique again
          cases missing.symm.trans there
      | pending again same pending =>
          cases names.unique again
          cases there.symm.trans same
          exact (apart pending status).elim
  | pending names there status =>
      cases k with
      | nameless none => exact absurd ⟨_, names⟩ none
      | pending => rfl
      | absent again missing =>
          cases names.unique again
          cases missing.symm.trans there
      | begun again same begun =>
          cases names.unique again
          cases there.symm.trans same
          exact (apart status begun).elim

/-- The answer to the run of what a segment names: its status is how things stood, and where it is granted, the
execution has ended and the body tells how. -/
structure Ran (segment : List Char) (before after : MemoryStore) (response : HttpResponse) : Prop where
  status : ∀ status, response.status = status ↔ Standing segment before status
  ended : response.status = 200 → ∃ id row members, Names segment id ∧ after.executions.find? id = some row ∧
    (row.status = ExecutionStatus.completed.name ∨ row.status = ExecutionStatus.failed.name) ∧
    response.body = (Json.object members).compact ∧
    Json.Object.find? members "success" = some (.bool (row.status = ExecutionStatus.completed.name))

/-- An execution was added, and nothing else was changed: a pending one, under an id that was not in use, of the
workflow that a segment names and for the payload that the body gives. -/
structure Created (segment : List Char) (request : HttpRequest) (before after : MemoryStore)
    (response : HttpResponse) (id workflowId : Uuid) (payload : Json) (now : Instant) : Prop where
  names : Names segment workflowId
  workflow : before.workflows.find? workflowId ≠ none
  taken : readPayload request = .ok payload
  given : ∀ value, readBody request.body = .ok value → payload = givenPayload value
  unused : before.Holds id none []
  added : after = { before with executions := before.executions.put id (.new id workflowId payload now) }
  shown : response.body = (ExecutionRow.new id workflowId payload now).toJson.compact

/-- The answer to a request, and what it has changed in a store. -/
structure Answered (request : HttpRequest) (before after : MemoryStore) (response : HttpResponse) : Prop where
  refused : 400 ≤ response.status → response.status < 500 → after = before
  reads : request.method ≠ "POST" → after = before
  created : ∀ segment, Resource.ofPath? request.path = some (.executionsOf segment) → request.method = "POST" →
    response.status = 201 → ∃ id workflowId payload now,
      Created segment request before after response id workflowId payload now
  ran : ∀ segment, Resource.ofPath? request.path = some (.runOf segment) → request.method = "POST" →
    Ran segment before after response

/-! ## Serving a request -/

/-- What is posted is answered as its resource is served. -/
theorem respond_posted (named : Resource.ofPath? request.path = some resource) (posts : resource.reads = false)
    (posted : request.method = "POST") :
    (respond x request).run env w =
      (((serve x request resource).run env w).1.map shared, ((serve x request resource).run env w).2) := by
  have accepted : resource.accepts request.method = true := by
    rw [Resource.accepts, posts, posted]
    rfl
  have whole (response : HttpResponse) : sent request response = response := if_neg (by rw [posted]; decide)
  simp only [respond, named, accepted, if_true, whole, Awaited.run_map]

/-- What came of a task is answered as it is. -/
theorem answering_run {α : Type} (status : Nat) (toJson : α → Json) (task : Task α) :
    (answering status toJson task).run env w =
      ((task.run.run env w).1.map (resultResponse status toJson), (task.run.run env w).2) :=
  Process.run_map ..

/-- What a caller is told is answered as it is. -/
theorem answering_wait {α : Type} (status : Nat) (toJson : α → Json) (c : ExceptT EngineError Awaited α) :
    (answering status toJson c).run env w =
      ((c.run.run env w).1.map (resultResponse status toJson), (c.run.run env w).2) :=
  Awaited.run_map ..

theorem answering_wait_of_some {α : Type} {status : Nat} {toJson : α → Json} {c : ExceptT EngineError Awaited α}
    {r : Except EngineError α} (told : c.run.run env w = (some r, w')) :
    (answering status toJson c).run env w = (some (resultResponse status toJson r), w') := by
  rw [answering_wait, told]
  rfl

theorem answering_run_ok {α : Type} {status : Nat} {toJson : α → Json} {task : Task α} {a : α}
    (ran : task.run.run env w = (some (.ok a), w')) :
    (answering status toJson task).run env w = (some (.ofJson status (toJson a)), w') := by
  rw [answering_run, ran]
  rfl

theorem answering_run_error {α : Type} {status : Nat} {toJson : α → Json} {task : Task α} {e : EngineError}
    (ran : task.run.run env w = (some (.error e), w')) :
    (answering status toJson task).run env w = (some (errorResponse e), w') := by
  rw [answering_run, ran]
  rfl

theorem Ran.of_refused {s s' : MemoryStore} {response : HttpResponse} {status : Nat}
    (standing : Standing segment s status) (refused : status ≠ 200) (told : response.status = status) :
    Ran segment s s' response where
  status _ := told ▸ ⟨fun same => same ▸ standing, standing.unique⟩
  ended granted := absurd (told.symm.trans granted) refused

/-- A run that is carried through is granted, and its summary tells how the execution has ended. -/
theorem Ran.of_accomplished {s s' : MemoryStore} {base : ExecutionRow} {summary : Summary}
    (names : Names segment base.id) (there : s.executions.find? base.id = some base)
    (pending : base.status = ExecutionStatus.pending.name) (accomplished : Accomplished env s x base s' (.ok summary)) :
    Ran segment s s' (.ofJson 200 summary.toJson) where
  status _ := ⟨fun same => same ▸ .pending names there pending, (Standing.pending names there pending).unique⟩
  ended _ := by
    cases accomplished with
    | @intro e clock now visits outcome rows read concluded logged holds =>
        refine ⟨base.id, _, _, names, holds.row, ?_, rfl, ?_⟩
        · rcases ExecutionStatus.ofOutcome_cases outcome.stepFailed outcome.setupError.isSome with ended | ended
          · exact .inl (congrArg ExecutionStatus.name ended)
          · exact .inr (congrArg ExecutionStatus.name ended)
        · have shown := (outcome.summary base.id (clock.ended outcome.stepFailed outcome.setupError now)).find?_success
          refine shown.trans (congrArg (fun success => some (Json.bool success)) ?_)
          exact decide_eq_decide.2 ExecutionStatus.name_inj.symm

/-- The run of an id that a segment names, in a state in which executions are found under their ids and in known
states. -/
theorem runNamed_answered (x : Executor) (faultless : env.Faultless) (w : World MemoryStore) {id : Uuid} {text : String}
    (sound : ∀ row, w.store.executions.find? id = some row →
      row.id = id ∧ ∃ status : ExecutionStatus, row.status = status.name)
    (names : Names segment id) (named : Executor.readId text = .ok id) :
    ∃ response, ((answering 200 Summary.toJson (x.runNamed text)).run env w).1 = some response ∧
      Ran segment w.store ((answering 200 Summary.toJson (x.runNamed text)).run env w).2.store response := by
  cases there : w.store.executions.find? id with
  | none =>
      have refused := Executor.runAttached_absent (x := x) faultless there
      rw [← Executor.runNamed_run faultless.refuses named] at refused
      rw [answering_wait_of_some refused]
      exact ⟨_, rfl, .of_refused (.absent names there) (by decide) rfl⟩
  | some row =>
      obtain ⟨rfl, status, known⟩ := sound row there
      by_cases pending : status = .pending
      · subst pending
        obtain ⟨r, result, accomplished⟩ := x.run_accomplished faultless there known named
        generalize ran : (x.runNamed text).run.run env w = outcome at result accomplished
        obtain ⟨told, after⟩ := outcome
        cases result
        obtain ⟨summary, rfl⟩ := accomplished.eq_ok
        rw [answering_wait_of_some ran]
        exact ⟨_, rfl, .of_accomplished names there known accomplished⟩
      · have read : ∃ e, row.toExecution = .ok e ∧ e.status = status := by
          rw [ExecutionRow.toExecution, known, ExecutionStatus.read_name]
          exact ⟨_, rfl, rfl⟩
        obtain ⟨e, read, rfl⟩ := read
        have refused := Executor.runAttached_late (x := x) faultless there read pending
        rw [← Executor.runNamed_run faultless.refuses named] at refused
        rw [answering_wait_of_some refused]
        refine ⟨_, rfl, .of_refused (.begun names there ?_) (by decide) rfl⟩
        rw [known]
        revert pending
        cases e.status <;> decide

/-- The run of what a segment names, in a state in which executions are found under their ids and in known states. -/
theorem runOf_answered (x : Executor) (faultless : env.Faultless) (request : HttpRequest) (w : World MemoryStore)
    (sound : ∀ id row, w.store.executions.find? id = some row →
      row.id = id ∧ ∃ status : ExecutionStatus, row.status = status.name)
    (segment : List Char) :
    ∃ response, ((serve x request (.runOf segment)).run env w).1 = some response ∧
      Ran segment w.store ((serve x request (.runOf segment)).run env w).2.store response := by
  cases decoded : Percent.decode? segment with
  | none =>
      have nameless : ¬ ∃ id, Names segment id := by
        rintro ⟨id, text, some, -⟩
        cases decoded.symm.trans some
      simp only [serve, Resource.id?, Option.getD_some, decoded]
      exact ⟨_, rfl, .of_refused (.nameless nameless) (by decide) rfl⟩
  | some text =>
      simp only [serve, Resource.id?, Option.getD_some, decoded, serveNamed]
      cases read : Uuid.read? (String.ofList text) with
      | none =>
          have nameless : ¬ ∃ id, Names segment id := by
            rintro ⟨id, names⟩
            cases read.symm.trans ((names_iff decoded).1 names)
          have refused : (x.runNamed (String.ofList text)).run.run env w =
              (some (.error (.invalidExecutionId (String.ofList text))), w) := by
            rw [Executor.runNamed, Executor.readId, read]
            rfl
          rw [answering_wait_of_some refused]
          exact ⟨_, rfl, .of_refused (.nameless nameless) (by decide) rfl⟩
      | some id =>
          have named : Executor.readId (String.ofList text) = .ok id := by rw [Executor.readId, read]
          exact runNamed_answered x faultless w (sound id) ((names_iff decoded).2 read) named

theorem readPayload_refuses {refused : HttpResponse} (unread : readPayload request = .error refused) :
    refused.status ≠ 201 := by
  have comes := readPayload_read request
  rw [unread] at comes
  cases comes with
  | untyped | long => decide
  | faulty fault =>
      rw [bodyFault]
      split <;> rintro ⟨⟩

/-- A request that creates an execution does so if it is answered with the execution. -/
theorem executionsOf_answered (x : Executor) (faultless : env.Faultless) (request : HttpRequest)
    (w : World MemoryStore) (segment : List Char)
    (unused : w.issued < ((serve x request (.executionsOf segment)).run env w).2.issued →
      w.store.Holds (env.ids w.issued) none []) :
    ∃ response, ((serve x request (.executionsOf segment)).run env w).1 = some response ∧
      (response.status = 201 → ∃ id workflowId payload now, Created segment request w.store
        ((serve x request (.executionsOf segment)).run env w).2.store response id workflowId payload now) := by
  cases decoded : Percent.decode? segment with
  | none =>
      simp only [serve, Resource.id?, Option.getD_some, decoded]
      exact ⟨_, rfl, by rintro ⟨⟩⟩
  | some text =>
      simp only [serve, Resource.id?, Option.getD_some, decoded, serveNamed, Awaited.run_inline] at unused ⊢
      cases taken : readPayload request with
      | error refused => exact ⟨refused, rfl, fun status => absurd status (readPayload_refuses taken)⟩
      | ok payload =>
          cases read : Uuid.read? (String.ofList text) with
          | none =>
              simp only [orServe, readId, read]
              exact ⟨_, rfl, by rintro ⟨⟩⟩
          | some workflowId =>
              simp only [taken, orServe, readId, read] at unused ⊢
              cases there : w.store.workflows.find? workflowId with
              | none =>
                  rw [answering_run_error (Executor.create_run_absent faultless payload there)]
                  exact ⟨_, rfl, by rintro ⟨⟩⟩
              | some workflow =>
                  obtain ⟨e, w', stored, ran, store, issued⟩ := Executor.create_run faultless payload there
                  rw [answering_run_ok ran] at unused ⊢
                  refine ⟨_, rfl, fun _ => ⟨env.ids w.issued, workflowId, payload, w.now, ?_⟩⟩
                  exact {
                    names := (names_iff decoded).2 read
                    workflow := by rw [there]; exact Option.some_ne_none _
                    taken
                    given := fun value body => readPayload_given taken body
                    unused := unused (by rw [issued]; exact Nat.lt_succ_self _)
                    added := store
                    shown := by
                      rw [← ExecutionRow.row_of_toExecution stored]
                      rfl }

/-! ## Every request in every state -/

variable {ι : Type} [DecidableEq ι]

/-- The ledger is right in every state that requests can reach. -/
theorem pool_ledger (x : Executor) (clean : env.FailsClean) {w : World MemoryStore}
    (noExecutions : w.store.executions = .empty) (noSteps : w.store.steps = .empty) (requests : ι → HttpRequest)
    (events : List (Event ι)) :
    let reached := (pool x env w requests).play env events
    w.issued ≤ reached.world.issued ∧
      (Set.InjOn env.ids (Set.Ico w.issued reached.world.issued) → Ledger env w.issued reached.world reached.said) := by
  intro reached
  have first : (pool x env w requests).Sound (callerTerms .any true) (fun i => Harmless (requests i))
      (InOrder env w.issued w.issued w.store) :=
    pool_sound env (inOrder_initially noExecutions noSteps)
  have sound := first.play (inOrder_upholds clean _ _ _) events
  obtain ⟨-, issued, order⟩ := sound.inv
  exact ⟨issued, fun distinct => (order distinct).1⟩

/-- A request that is served alone is harmless: what is refused or does not post changes nothing. -/
theorem respond_harmless (x : Executor) (refuses : env.Refuses) (request : HttpRequest) (w : World MemoryStore)
    {response : HttpResponse} (result : ((respond x request).run env w).1 = some response)
    (harmless : request.method ≠ "POST" ∨ 400 ≤ response.status ∧ response.status < 500) :
    ((respond x request).run env w).2.store = w.store := by
  rw [Awaited.run_unbroken refuses] at result ⊢
  obtain ⟨-, ends, -⟩ := (respond_keeps x request).run (upholds_any env) (w := w) trivial
  exact Process.run_untouched refuses.failsClean _ w (ends response result harmless)

/-- Where no call fails, every request is answered in every state that requests can reach, and every answer is as it
should be; and what was refused, or did not post, on the way has written nothing. -/
theorem request_answered (x : Executor) (faultless : env.Faultless) {w : World MemoryStore}
    (noExecutions : w.store.executions = .empty) (noSteps : w.store.steps = .empty) (requests : ι → HttpRequest)
    (events : List (Event ι)) (request : HttpRequest)
    (distinct : Set.InjOn env.ids (Set.Ico w.issued
      ((respond x request).run env ((pool x env w requests).play env events).world).2.issued)) :
    let reached := (pool x env w requests).play env events
    let served := (respond x request).run env reached.world
    (∃ response, served.1 = some response ∧ Answered request reached.world.store served.2.store response) ∧
      ∀ i response, (reached.callers i).result? = some response →
        (requests i).method ≠ "POST" ∨ 400 ≤ response.status ∧ response.status < 500 →
        (reached.said i).Untouched := by
  intro reached served
  have clean := faultless.refuses.failsClean
  have grown : reached.world.issued ≤ served.2.issued := Process.run_issued_le clean _ _
  have until_ (n : Nat) (within : n ≤ served.2.issued) : Set.InjOn env.ids (Set.Ico w.issued n) := by
    apply distinct.mono
    rintro k ⟨from_, before⟩
    exact ⟨from_, Nat.lt_of_lt_of_le before within⟩
  obtain ⟨begun, order⟩ := pool_ledger x clean noExecutions noSteps requests events
  have ledger := order (until_ _ grown)
  refine ⟨?_, fun i response => refused_untouched x env w requests events i⟩
  obtain ⟨response, result⟩ : ∃ response, served.1 = some response := Awaited.run_isSome faultless.refuses _ _
  have harmless := respond_harmless x faultless.refuses request reached.world result
  refine ⟨response, result, ?_⟩
  constructor
  · exact fun refused known => harmless (.inr ⟨refused, known⟩)
  · exact fun reads => harmless (.inl reads)
  · intro segment named posted status
    have same : served = _ := respond_posted named rfl posted
    have after : served.2 = _ := congrArg Prod.snd same
    obtain ⟨shown, serves, created⟩ := executionsOf_answered x faultless request reached.world segment fun more =>
      ledger.next_unused begun (until_ _ (after ▸ more))
    rw [same, serves] at result
    cases result
    obtain ⟨id, workflowId, payload, now, created⟩ := created status
    rw [after]
    exact ⟨id, workflowId, payload, now, { created with }⟩
  · intro segment named posted
    have same : served = _ := respond_posted named rfl posted
    have after : served.2 = _ := congrArg Prod.snd same
    have sound (id : Uuid) (row : ExecutionRow) (there : reached.world.store.executions.find? id = some row) :
        row.id = id ∧ ∃ status : ExecutionStatus, row.status = status.name :=
      ⟨ledger.row_id there, (ledger.consistent there).known⟩
    obtain ⟨shown, serves, ran⟩ := runOf_answered x faultless request reached.world sound segment
    rw [same, serves] at result
    cases result
    rw [after]
    exact ⟨ran.status, ran.ended⟩

/-- A world in which there is a workflow without a node. -/
def bareWorld : World MemoryStore := .start (MemoryStore.empty.putWorkflow ⟨⟨.nil, "", 0⟩, [], []⟩)

/-- A client has an execution of the workflow created. -/
def createBare : HttpRequest :=
  ⟨"POST", "/api/v1/workflows/00000000-0000-0000-0000-000000000000/executions",
    [("content-type", octets "application/json")], octets "\x7b\x7d"⟩

/-- A client has the first execution run. -/
def runFirst : HttpRequest := ⟨"POST", "/api/v1/executions/00000000-0000-0000-0000-000000000000/run", [], []⟩

/-- The execution was created. -/
def bareCreated : Pool MemoryStore Unit HttpResponse :=
  (pool ⟨.empty, 5, 0⟩ .calm bareWorld fun _ => createBare).play .calm [.turn (), .turn ()]

/-- What the run comes to. -/
def firstServed : Option HttpResponse × World MemoryStore :=
  (respond ⟨.empty, 5, 0⟩ runFirst).run .calm bareCreated.world

theorem request_answered_run_first :
    ∃ response, firstServed.1 = some response ∧ response.status = 200 ∧
      Answered runFirst bareCreated.world.store firstServed.2.store response := by
  have issued : firstServed.2.issued = 1 := by decide +kernel
  have granted : firstServed.1.map HttpResponse.status = some 200 := by decide +kernel
  have distinct : Set.InjOn Environment.calm.ids (Set.Ico 0 1) := by
    rintro m ⟨-, first⟩ n ⟨-, second⟩ -
    omega
  unfold firstServed bareCreated at issued granted ⊢
  obtain ⟨⟨response, served, asItShould⟩, -⟩ :=
    request_answered ⟨.empty, 5, 0⟩ Environment.calm_faultless (w := bareWorld) rfl rfl (fun _ => createBare)
      [.turn (), .turn ()] runFirst (by rw [issued]; exact distinct)
  rw [served] at granted
  exact ⟨response, served, Option.some.inj granted, asItShould⟩

end Service

end WorkflowEngine
