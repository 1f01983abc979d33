/-
Module: WorkflowEngine.Proofs.Course
Layer: Proofs
Purpose: The dialogue of a run from the loading of its execution to the end.  Whatever a run is told, its dialogue
  has one of eight shapes, and the shape settles how the run ends (`Course`); no request of a run breaks the rule
  of conduct on the way (`Executor.runAttached_keeps`).  The other requests of callers are short.
Imports: WorkflowEngine.Proofs.Conduct
Trusted boundary: none
Main exports: RunClock.finish, Attempts, Concluded, Course, Executor.runAttached_keeps, Executor.create_keeps,
  Executor.get_keeps, Executor.steps_keeps
-/
import WorkflowEngine.Proofs.Conduct

namespace WorkflowEngine

variable {admits : Answers} {creates : Bool} {x : Executor} {e : Execution} {id : Uuid} {d : Dialogue}

/-! ## Ending an execution -/

/-- What is written when a run ends at a given time. -/
def RunClock.finish (clock : RunClock) (stepFailed : Bool) (error : Option String) (now : Instant) : Finish :=
  ⟨(ExecutionStatus.ofOutcome stepFailed error.isSome).name, error, now, clock.elapsedMs now⟩

/-- How a run ends at a given time. -/
def RunClock.ended (clock : RunClock) (stepFailed : Bool) (error : Option String) (now : Instant) : FinishedRun :=
  ⟨ExecutionStatus.ofOutcome stepFailed error.isSome, now, clock.elapsedMs now⟩

/-- The attempts at ending an execution, with pauses between them. -/
inductive Attempts (id : Uuid) (clock : RunClock) (stepFailed : Bool) (error : Option String) :
    List Nat → Dialogue → Except EngineError FinishedRun → Prop where
  | written {pauses : List Nat} {now : Instant} :
      Attempts id clock stepFailed error pauses
        [⟨.clock, now⟩, ⟨.store (.finishExecution id (clock.finish stepFailed error now)), .ok ()⟩]
        (.ok (clock.ended stepFailed error now))
  | gone {pauses : List Nat} {now : Instant} :
      Attempts id clock stepFailed error pauses
        [⟨.clock, now⟩, ⟨.store (.finishExecution id (clock.finish stepFailed error now)), .error .notFound⟩]
        (.error (.store .notFound))
  | again {pause : Nat} {pauses : List Nat} {now : Instant} {f : StoreFault} {rest : Dialogue}
      {r : Except EngineError FinishedRun} (fault : f ≠ .notFound)
      (later : Attempts id clock stepFailed error pauses rest r) :
      Attempts id clock stepFailed error (pause :: pauses)
        (⟨.clock, now⟩ :: ⟨.store (.finishExecution id (clock.finish stepFailed error now)), .error f⟩
          :: ⟨.sleep (pause * 1000000), ()⟩ :: rest) r
  | givenUp {now : Instant} {f : StoreFault} (fault : f ≠ .notFound) :
      Attempts id clock stepFailed error []
        [⟨.clock, now⟩, ⟨.store (.finishExecution id (clock.finish stepFailed error now)), .error f⟩]
        (.error (.store f))

namespace Attempts

variable {clock : RunClock} {stepFailed : Bool} {error : Option String} {pauses : List Nat}
  {r : Except EngineError FinishedRun}

/-- Every request is for the time, for a pause, or to write how the execution ended. -/
theorem requests (h : Attempts id clock stepFailed error pauses d r) :
    ∀ l ∈ d, l.request = .clock ∨ (∃ ns, l.request = .sleep ns) ∨
      ∃ now, l.request = .store (.finishExecution id (clock.finish stepFailed error now)) := by
  induction h with
  | written => simp
  | gone => simp
  | givenUp => simp
  | again fault later ih =>
      intro l member
      simp only [List.mem_cons] at member
      rcases member with rfl | rfl | rfl | member
      · exact .inl rfl
      · exact .inr (.inr ⟨_, rfl⟩)
      · exact .inr (.inl ⟨_, rfl⟩)
      · exact ih l member

theorem steps (h : Attempts id clock stepFailed error pauses d r) : d.steps = [] := by
  apply Dialogue.steps_eq_nil
  intro l member
  rcases h.requests l member with eq | ⟨ns, eq⟩ | ⟨now, eq⟩ <;> simp [eq, Request.method?, StoreCall.method]

/-- What was written shows in how the attempts end. -/
theorem finish? (h : Attempts id clock stepFailed error pauses d r) :
    (∃ now, d.finish? = some (clock.finish stepFailed error now) ∧ r = .ok (clock.ended stepFailed error now)) ∨
      d.finish? = none ∧ ∃ f, r = .error (.store f) := by
  induction h with
  | written => exact .inl ⟨_, rfl, rfl⟩
  | gone => exact .inr ⟨rfl, _, rfl⟩
  | givenUp => exact .inr ⟨rfl, _, rfl⟩
  | again fault later ih => exact ih

/-- Attempts that come to nothing were answered with failures. -/
theorem error_line {err : EngineError} (h : Attempts id clock stepFailed error pauses d (.error err)) :
    ∃ now f, (⟨.store (.finishExecution id (clock.finish stepFailed error now)), .error f⟩ : Line) ∈ d := by
  generalize outcome : (Except.error err : Except EngineError FinishedRun) = r at h
  cases h with
  | written => cases outcome
  | gone | again | givenUp => exact ⟨_, _, List.mem_cons_of_mem _ List.mem_cons_self⟩

end Attempts

theorem finish_keeps {clock : RunClock} {stepFailed : Bool} {error : Option String}
    (holds : d.Holds id) (suits : ∀ now, (clock.finish stepFailed error now).Suits d.steps) :
    (finish id clock stepFailed error).run.Keeps (callerTerms admits creates)
      (fun r d' => ∃ now a,
        d' = d ++ [⟨.clock, now⟩, ⟨.store (.finishExecution id (clock.finish stepFailed error now)), a⟩] ∧
          r = match a with
            | .ok _ => .ok (clock.ended stepFailed error now)
            | .error f => .error (.store f)) d := by
  refine Task.keeps_bind ⟨trivial, fun now _ => ?_⟩
  have quiet : Dialogue.Quiet [⟨.clock, now⟩] := ⟨rfl, rfl, rfl⟩
  refine Task.keeps_bind (Task.keeps_call ⟨holds.append_quiet quiet, ?_⟩ (fun a _ => ?_) fun f _ => ?_)
  · rw [quiet.steps_append]
    exact suits now
  · exact ⟨now, .ok a, List.append_assoc .., rfl⟩
  · exact ⟨now, .error f, List.append_assoc .., rfl⟩

/-- Ending an execution that the caller holds keeps the rule if what is written suits the steps. -/
theorem finalize_keeps {clock : RunClock} {stepFailed : Bool} {error : Option String} {pauses : List Nat}
    (holds : d.Holds id) (suits : ∀ now, (clock.finish stepFailed error now).Suits d.steps) :
    (finalize id clock stepFailed error pauses).run.Keeps (callerTerms admits creates)
      (fun r d' => ∃ tail, d' = d ++ tail ∧ Attempts id clock stepFailed error pauses tail r) d := by
  induction pauses generalizing d with
  | nil =>
      apply (finish_keeps holds suits).mono
      rintro _ _ ⟨now, a, rfl, rfl⟩
      refine ⟨_, rfl, ?_⟩
      cases a with
      | ok => exact .written
      | error f =>
          by_cases missing : f = .notFound
          · subst missing
            exact .gone
          · exact .givenUp missing
  | cons pause pauses ih =>
      refine Task.keeps_tryCatch ((finish_keeps holds suits).mono ?_)
      rintro _ _ ⟨now, a, rfl, rfl⟩
      cases a with
      | ok => exact ⟨_, rfl, .written⟩
      | error f =>
          simp only [EngineError.store.injEq]
          split
          · rename_i missing
            subst missing
            exact ⟨_, rfl, .gone⟩
          · rename_i fault
            refine Task.keeps_bind ⟨trivial, fun rested _ => ?_⟩
            have quiet : Dialogue.Quiet [⟨.clock, now⟩,
                ⟨.store (.finishExecution id (clock.finish stepFailed error now)), .error f⟩,
                ⟨.sleep (pause * 1000000), rested⟩] := ⟨rfl, rfl, rfl⟩
            rw [List.append_assoc]
            apply (ih (holds.append_quiet quiet) (by rw [quiet.steps_append]; exact suits)).mono
            rintro r _ ⟨rest, rfl, later⟩
            exact ⟨_, List.append_assoc .., .again fault later⟩

/-! ## Walking a workflow -/

/-- A graph is what can be loaded of a workflow. -/
def Loadable (admits : Answers) (workflowId : Uuid) (graph : Graph) : Prop :=
  ∃ row nodes edges, admits (.store (.getWorkflow workflowId)) (.ok row) ∧
    admits (.store (.listNodes workflowId)) (.ok nodes) ∧ admits (.store (.listEdges workflowId)) (.ok edges) ∧
    graph = .ofWorkflow (.ofRows row nodes edges)

/-- The visits of a run that the store serves, and how its walk ends. -/
inductive Concluded (admits : Answers) (x : Executor) (e : Execution) : List Visit → Traversal → Prop where
  | gone (missing : admits (.store (.getWorkflow e.workflowId)) (.error .notFound)) :
      Concluded admits x e [] (.notBegun workflowNotFoundError)
  | defective {graph : Graph} {defect : Defect} (loaded : Loadable admits e.workflowId graph)
      (entry : Executor.entry graph = .error defect) : Concluded admits x e [] (.notBegun defect.message)
  | walked {graph : Graph} {trigger : Node} {visits : List Visit} (loaded : Loadable admits e.workflowId graph)
      (entry : Executor.entry graph = .ok trigger)
      (trail : Trail graph (Executor.Possible admits x e) x.maxSteps (.new e.payload) (some trigger) visits) :
      Concluded admits x e visits (.ended visits.length (visits.any Visit.failed))

theorem Logged.allCompleted {visits : List Visit} {rows : List StepRow} (logged : Logged id visits rows)
    (sound : ∀ v ∈ visits, v.failed = false) : AllCompleted rows := by
  induction logged with
  | nil => exact .nil
  | @cons v row visits rows recorded rest ih =>
      intro s member
      rcases List.mem_cons.mp member with rfl | later
      · rw [recorded.status_eq, Visit.status, sound v (by simp)]
        rfl
      · exact ih (fun v member => sound v (List.mem_cons_of_mem _ member)) s later

theorem Logged.failedLast {before : List Visit} {last : Visit} {rows : List StepRow}
    (logged : Logged id (before ++ [last]) rows) (failed : last.failed = true)
    (sound : ∀ v ∈ before, v.failed = false) : FailedLast rows := by
  induction before generalizing rows with
  | nil =>
      obtain ⟨row, none, recorded, nothing, rfl⟩ := List.forall₂_cons_left_iff.mp logged
      cases nothing
      refine ⟨[], row, rfl, ?_, .nil⟩
      rw [recorded.status_eq, Visit.status, failed]
      rfl
  | cons v before ih =>
      obtain ⟨row, rest, recorded, later, rfl⟩ := List.forall₂_cons_left_iff.mp logged
      obtain ⟨rows, lastRow, rfl, status, completed⟩ :=
        ih later fun v member => sound v (List.mem_cons_of_mem _ member)
      refine ⟨row :: rows, lastRow, rfl, status, ?_⟩
      intro s member
      rcases List.mem_cons.mp member with rfl | later
      · rw [recorded.status_eq, Visit.status, sound v (by simp)]
        rfl
      · exact completed s later

namespace Concluded

variable {visits : List Visit} {outcome : Traversal} {rows : List StepRow}

theorem stepsExecuted_eq (h : Concluded admits x e visits outcome) : outcome.stepsExecuted = visits.length := by
  cases h <;> rfl

/-- What is written at the end of a walk suits the steps that recorded it. -/
theorem suits (h : Concluded admits x e visits outcome) (logged : Logged e.id visits rows) (clock : RunClock)
    (now : Instant) : (clock.finish outcome.stepFailed outcome.setupError now).Suits rows := by
  cases h with
  | gone => exact .otherwise rfl (by simp [RunClock.finish, Traversal.notBegun]) (logged.allCompleted (by simp))
  | defective => exact .otherwise rfl (by simp [RunClock.finish, Traversal.notBegun]) (logged.allCompleted (by simp))
  | walked loaded entry trail =>
      rcases trail.failed_last with sound | ⟨before, last, rfl, failed, sound⟩
      · have none : visits.any Visit.failed = false := by simpa using sound
        rw [none]
        exact .completed rfl rfl (logged.allCompleted sound)
      · have some : (before ++ [last]).any Visit.failed = true := by simp [failed]
        rw [some]
        exact .stepFailed rfl rfl (logged.failedLast failed sound)

end Concluded

/-- What a run says once it has started its execution, and how its walk ends: it comes to a conclusion, or breaks
off where the store fails. -/
inductive DriveEnds (admits : Answers) (x : Executor) (e : Execution) :
    Dialogue → Except EngineError Traversal → Prop where
  | whole {body : Dialogue} {visits : List Visit} {outcome : Traversal}
      (concluded : Concluded admits x e visits outcome) (smooth : body.Smooth)
      (logged : Logged e.id visits body.steps) : DriveEnds admits x e body (.ok outcome)
  | broken {body : Dialogue} {call : StoreCall} {f : StoreFault} (smooth : body.Smooth)
      (sound : AllCompleted body.steps) (walks : call.method.walks = true)
      (fault : call.method = .getWorkflow → f ≠ .notFound) :
      DriveEnds admits x e (body ++ [⟨.store call, .error f⟩]) (.error (.store f))

namespace Executor

private theorem smooth_line {l : Line} {m : StoreMethod} (method : l.request.method? = some m) (walks : m.walks = true)
    (served : l.fault? = none) : Dialogue.Smooth [l] := by
  intro k member
  rw [List.mem_singleton.mp member]
  refine ⟨served, fun n other => ?_⟩
  rw [method] at other
  cases other
  exact walks

theorem drive_keeps (opened : d.Open e.id) :
    (x.drive e).run.Keeps (callerTerms admits creates)
      (fun r d' => ∃ body, d' = d ++ body ∧ DriveEnds admits x e body r) d := by
  refine Task.keeps_bind ⟨trivial, fun reply workflowSaid => ?_⟩
  cases reply with
  | error f =>
      cases f with
      | notFound => exact ⟨_, rfl, .whole (.gone workflowSaid) (smooth_line rfl rfl rfl) .nil⟩
      | database | migration =>
          exact ⟨_, rfl, .broken Dialogue.smooth_nil .nil rfl fun _ missing => nomatch missing⟩
  | ok row =>
      have first : Dialogue.Smooth [⟨.store (.getWorkflow e.workflowId), .ok row⟩] := smooth_line rfl rfl rfl
      refine Task.keeps_bind (Task.keeps_call trivial (fun nodes nodesSaid => ?_) fun f _ => ?_)
      · have second : Dialogue.Smooth [⟨.store (.listNodes e.workflowId), .ok nodes⟩] := smooth_line rfl rfl rfl
        refine Task.keeps_bind (Task.keeps_call trivial (fun edges edgesSaid => ?_) fun f _ => ?_)
        · have third : Dialogue.Smooth [⟨.store (.listEdges e.workflowId), .ok edges⟩] := smooth_line rfl rfl rfl
          have loaded : Loadable admits e.workflowId (.ofWorkflow (.ofRows row nodes edges)) :=
            ⟨row, nodes, edges, workflowSaid, nodesSaid, edgesSaid, rfl⟩
          have before := (first.append second).append third
          rw [List.append_assoc, List.append_assoc, ← List.append_assoc [_] [_]]
          simp only
          split
          · rename_i defect found
            exact ⟨_, rfl, .whole (.defective loaded found) before .nil⟩
          · rename_i trigger found
            apply (walk_keeps (opened.append before .nil)).mono
            rintro r _ ⟨body, rfl, ends⟩
            refine ⟨_, List.append_assoc .., ?_⟩
            cases ends with
            | whole trail smooth logged =>
                rw [Nat.zero_add]
                exact .whole (.walked loaded found trail) (before.append smooth) logged
            | broken smooth sound =>
                rw [← List.append_assoc]
                exact .broken (before.append smooth) sound rfl fun other => nomatch other
        · exact ⟨_, by rw [List.append_assoc, List.append_assoc]; rfl,
            .broken (first.append second) .nil rfl (by rintro ⟨⟩)⟩
      · exact ⟨_, by rw [List.append_assoc], .broken first .nil rfl (by rintro ⟨⟩)⟩

end Executor

/-! ## Runs -/

/-- The summary of a run. -/
def Traversal.summary (outcome : Traversal) (id : Uuid) (finished : FinishedRun) : Summary :=
  ⟨finished.status = .completed, id, finished.durationMs, outcome.stepsExecuted⟩

/-- What a run says after it has started its execution, and how it ends.  Its walk is served by the store, or
ends where the store fails. -/
inductive RunEnds (admits : Answers) (x : Executor) (e : Execution) (clock : RunClock) :
    Dialogue → Except EngineError Summary → Prop where
  | concluded {body tail : Dialogue} {visits : List Visit} {outcome : Traversal} {r : Except EngineError FinishedRun}
      (concluded : Concluded admits x e visits outcome) (smooth : body.Smooth)
      (logged : Logged e.id visits body.steps)
      (attempts : Attempts e.id clock outcome.stepFailed outcome.setupError finalizePauses tail r) :
      RunEnds admits x e clock (body ++ tail) (r.map (outcome.summary e.id))
  | aborted {body tail : Dialogue} {call : StoreCall} {f : StoreFault} {r : Except EngineError FinishedRun}
      (smooth : body.Smooth) (sound : AllCompleted body.steps) (walks : call.method.walks = true)
      (fault : call.method = .getWorkflow → f ≠ .notFound)
      (attempts : Attempts e.id clock true (some abortedError) finalizePauses tail r) :
      RunEnds admits x e clock (body ++ [⟨.store call, .error f⟩] ++ tail) (.error (.store f))

/-- What a run says until it has started its execution. -/
def opening (id : Uuid) (row : ExecutionRow) (clock : RunClock) : Dialogue :=
  [⟨.store (.getExecution id), .ok row⟩, ⟨.clock, clock.startedAt⟩,
    ⟨.store (.markRunning row.id clock.startedAt), .ok true⟩, ⟨.clock, clock.anchor⟩]

/-- The dialogue of a run, and how the run ends. -/
inductive Course (admits : Answers) (x : Executor) (id : Uuid) : Dialogue → Except EngineError Summary → Prop where
  | absent : Course admits x id [⟨.store (.getExecution id), .error .notFound⟩] (.error (.executionNotFound id))
  | unread {f : StoreFault} (fault : f ≠ .notFound) :
      Course admits x id [⟨.store (.getExecution id), .error f⟩] (.error (.store f))
  | unreadable {row : ExecutionRow} {reason : String} (read : row.toExecution = .error reason) :
      Course admits x id [⟨.store (.getExecution id), .ok row⟩] (.error (.invalidRecord reason))
  | late {row : ExecutionRow} {e : Execution} (read : row.toExecution = .ok e) (status : e.status ≠ .pending) :
      Course admits x id [⟨.store (.getExecution id), .ok row⟩] (.error (.alreadyStarted row.id e.status.name))
  | unmarked {row : ExecutionRow} {e : Execution} {startedAt : Instant} {f : StoreFault}
      (read : row.toExecution = .ok e) (status : e.status = .pending) :
      Course admits x id
        [⟨.store (.getExecution id), .ok row⟩, ⟨.clock, startedAt⟩, ⟨.store (.markRunning row.id startedAt), .error f⟩]
        (.error (.store f))
  | lost {row : ExecutionRow} {e : Execution} {startedAt : Instant} (read : row.toExecution = .ok e)
      (status : e.status = .pending) :
      Course admits x id
        [⟨.store (.getExecution id), .ok row⟩, ⟨.clock, startedAt⟩, ⟨.store (.markRunning row.id startedAt), .ok false⟩]
        (.error (.alreadyStarted row.id ExecutionStatus.running.name))
  | begun {row : ExecutionRow} {e : Execution} {clock : RunClock} {rest : Dialogue} {r : Except EngineError Summary}
      (read : row.toExecution = .ok e) (status : e.status = .pending) (ends : RunEnds admits x e clock rest r) :
      Course admits x id (opening id row clock ++ rest) r

theorem ExecutionStatus.name_inj {a b : ExecutionStatus} : a.name = b.name ↔ a = b := by
  cases a <;> cases b <;> decide

theorem ExecutionStatus.ofOutcome_cases (stepFailed setupFailed : Bool) :
    ExecutionStatus.ofOutcome stepFailed setupFailed = .completed ∨
      ExecutionStatus.ofOutcome stepFailed setupFailed = .failed := by
  cases stepFailed <;> cases setupFailed <;> decide

theorem ExecutionStatus.name_of_read {text : String} {status : ExecutionStatus} (h : read text = .ok status) :
    text = status.name := by
  unfold read at h
  split at h <;> cases h <;> rfl

/-- What a row is read as is written as that row. -/
theorem ExecutionRow.row_of_toExecution {row : ExecutionRow} (read : row.toExecution = .ok e) : e.row = row := by
  unfold toExecution at read
  cases status : ExecutionStatus.read row.status with
  | error reason => simp [status, Except.map] at read
  | ok s =>
      simp only [status, Except.map, Except.ok.injEq] at read
      rw [← read, Execution.row, ← ExecutionStatus.name_of_read status]

theorem ExecutionRow.toExecution_id {row : ExecutionRow} (read : row.toExecution = .ok e) : e.id = row.id :=
  congrArg ExecutionRow.id (row_of_toExecution read)

theorem ExecutionRow.toExecution_workflowId {row : ExecutionRow} (read : row.toExecution = .ok e) :
    e.workflowId = row.workflowId :=
  congrArg ExecutionRow.workflowId (row_of_toExecution read)

theorem ExecutionRow.toExecution_payload {row : ExecutionRow} (read : row.toExecution = .ok e) :
    e.payload = row.payload :=
  congrArg ExecutionRow.payload (row_of_toExecution read)

theorem ExecutionRow.toExecution_status {row : ExecutionRow} (read : row.toExecution = .ok e) :
    row.status = e.status.name :=
  congrArg ExecutionRow.status (row_of_toExecution read).symm

theorem load_keeps :
    (load id).run.Keeps (callerTerms admits creates) (fun r d' => ∃ reply,
      d' = d ++ [⟨.store (.getExecution id), reply⟩] ∧ r = match reply with
        | .ok row => row.toExecution.mapError .invalidRecord
        | .error .notFound => .error (.executionNotFound id)
        | .error f => .error (.store f)) d := by
  refine Task.keeps_bind ⟨trivial, fun reply _ => ?_⟩
  rcases reply with f | row
  · cases f <;> exact ⟨.error _, rfl, rfl⟩
  · exact Task.keeps_ofRecord ⟨.ok row, rfl, rfl⟩

namespace Executor

/-- A run that has started its execution goes on until it ends. -/
theorem runStarted_keeps {clock : RunClock} (opened : d.Open e.id) (fresh : d.steps = []) :
    (x.runStarted e clock).run.Keeps (callerTerms admits creates)
      (fun r d' => ∃ rest, d' = d ++ rest ∧ RunEnds admits x e clock rest r) d := by
  refine Task.keeps_bind (Task.keeps_tryCatch ((drive_keeps opened).mono ?_))
  rintro _ _ ⟨body, rfl, ends⟩
  cases ends with
  | @whole _ visits outcome concluded smooth logged =>
      have steps : (d ++ body).steps = body.steps := by rw [Dialogue.steps_append, fresh, List.nil_append]
      refine Task.keeps_bind ((finalize_keeps (opened.toHolds.append_smooth smooth) fun now => ?_).mono ?_)
      · rw [steps]
        exact concluded.suits logged clock now
      · rintro r _ ⟨tail, rfl, attempts⟩
        have ends := RunEnds.concluded concluded smooth logged attempts
        cases r with
        | ok finished => exact ⟨_, List.append_assoc .., ends⟩
        | error err => exact ⟨_, List.append_assoc .., ends⟩
  | @broken body call f smooth sound walks fault =>
      have quiet := Dialogue.quiet_error call f
      have holds := (opened.toHolds.append_smooth smooth).append_quiet quiet
      have steps : Dialogue.steps (d ++ body ++ [⟨.store call, .error f⟩]) = body.steps := by
        rw [quiet.steps_append, Dialogue.steps_append, fresh, List.nil_append]
      rw [← List.append_assoc]
      refine Task.keeps_bind (Task.keeps_tryCatch (Task.keeps_discard
        ((finalize_keeps holds fun now => ?_).mono ?_)))
      · rw [steps]
        exact .otherwise rfl (by simp [RunClock.finish]) sound
      · rintro r _ ⟨tail, rfl, attempts⟩
        have ends : RunEnds admits x e clock (body ++ [⟨.store call, .error f⟩] ++ tail) (.error (.store f)) :=
          .aborted smooth sound walks fault attempts
        cases r with
        | ok finished => exact ⟨_, by simp only [List.append_assoc], ends⟩
        | error err => exact ⟨_, by simp only [List.append_assoc], ends⟩

/-- However a run is told, it keeps the rule, and its dialogue takes one of the courses. -/
theorem runAttached_keeps :
    (x.runAttached id).run.Keeps (callerTerms admits creates) (fun r d' => Course admits x id d' r) [] := by
  refine Task.keeps_bind (load_keeps.mono ?_)
  rintro _ _ ⟨reply, rfl, rfl⟩
  cases reply with
  | error f =>
      cases f with
      | notFound => exact .absent
      | database | migration => exact .unread (by simp)
  | ok row =>
      cases read : row.toExecution with
      | error reason =>
          simp only [read]
          exact .unreadable read
      | ok e =>
          have id_eq := ExecutionRow.toExecution_id read
          simp only [read]
          apply Task.keeps_bind
          unfold start
          split
          · rename_i status
            rw [id_eq]
            exact .late read status
          · rename_i status
            have pending : e.status = .pending := by simpa using status
            refine Task.keeps_bind ⟨trivial, fun startedAt _ => ?_⟩
            refine Task.keeps_bind (Task.keeps_call rfl (fun won _ => ?_) fun f _ => ?_)
            · cases won with
              | false =>
                  rw [id_eq]
                  exact .lost read pending
              | true =>
                  refine Task.keeps_bind ⟨trivial, fun anchor _ => ?_⟩
                  have opened : (opening id row ⟨startedAt, anchor⟩).Open e.id :=
                    ⟨⟨by rw [id_eq]; rfl, rfl⟩, .nil⟩
                  have said : opening id row ⟨startedAt, anchor⟩ = [⟨.store (.getExecution id), .ok row⟩,
                      ⟨.clock, startedAt⟩, ⟨.store (.markRunning e.id startedAt), .ok true⟩, ⟨.clock, anchor⟩] := by
                    rw [id_eq]
                    rfl
                  change Process.Keeps _ _ (x.runStarted e ⟨startedAt, anchor⟩).run
                    [⟨.store (.getExecution id), .ok row⟩, ⟨.clock, startedAt⟩,
                      ⟨.store (.markRunning e.id startedAt), .ok true⟩, ⟨.clock, anchor⟩]
                  rw [← said]
                  apply (runStarted_keeps opened rfl).mono
                  rintro r _ ⟨rest, rfl, ends⟩
                  exact .begun read pending ends
            · rw [id_eq]
              exact .unmarked read pending

end Executor

/-! ## Callers -/

/-- What a caller wants of the engine. -/
inductive Demand where
  | create (workflowId : Uuid) (payload : Json)
  | run (text : String)
  | get (id : Uuid)
  | steps (id : Uuid)
  deriving DecidableEq

/-- What a caller gets. -/
inductive Reply where
  | execution (execution : Execution)
  | summary (summary : Summary)
  | steps (steps : List Step)
  deriving DecidableEq

/-- Whether a caller wants a new execution. -/
def Demand.isCreate : Demand → Bool
  | .create .. => true
  | _ => false

/-- Serves a caller. -/
def Executor.serve (x : Executor) : Demand → ExceptT EngineError Awaited Reply
  | .create workflowId payload => Task.inline (Reply.execution <$> create workflowId payload)
  | .run text => ExceptT.mk (Except.map Reply.summary <$> (x.runNamed text).run)
  | .get id => Task.inline (Reply.execution <$> get id)
  | .steps id => Task.inline (Reply.steps <$> steps id)

/-- A request that comes before a start, or that only reads: nothing is visited yet. -/
def Request.Preliminary : Request → Prop
  | .store (.getExecution _) | .store (.markRunning ..) | .store (.listSteps _) | .clock => True
  | _ => False

/-- How the service of a caller ends. -/
def Demand.Ends (admits : Answers) (x : Executor) : Demand → Except EngineError Reply → Dialogue → Prop
  | .run text, r, d =>
      match Executor.readId text with
      | .ok id => ∃ s, Course admits x id d s ∧ r = s.map .summary
      | .error e => d = [] ∧ r = .error e
  | .create .., _, d => d.Quiet
  | .get _, _, d | .steps _, _, d => d.Quiet ∧ ∀ l ∈ d, l.request.Preliminary

namespace Executor

theorem create_keeps {workflowId : Uuid} {payload : Json} :
    (create workflowId payload).run.Keeps (callerTerms admits true) (fun _ d => d.Quiet) [] := by
  refine Task.keeps_bind ⟨trivial, fun reply _ => ?_⟩
  rcases reply with f | row
  · cases f <;> exact ⟨rfl, rfl, rfl⟩
  · exact Task.keeps_bind (Task.keeps_call rfl (fun _ _ => Task.keeps_ofRecord ⟨rfl, rfl, rfl⟩)
      fun _ _ => ⟨rfl, rfl, rfl⟩)

theorem get_keeps :
    (get id).run.Keeps (callerTerms admits creates) (fun _ d => d.Quiet ∧ ∀ l ∈ d, l.request.Preliminary) [] := by
  apply load_keeps.mono
  rintro _ _ ⟨reply, rfl, -⟩
  exact ⟨⟨rfl, rfl, rfl⟩, by simp [Request.Preliminary]⟩

theorem steps_keeps :
    (steps id).run.Keeps (callerTerms admits creates) (fun _ d => d.Quiet ∧ ∀ l ∈ d, l.request.Preliminary) [] := by
  refine Task.keeps_bind (load_keeps.mono ?_)
  rintro r _ ⟨reply, rfl, -⟩
  cases r with
  | error => exact ⟨⟨rfl, rfl, rfl⟩, by simp [Request.Preliminary]⟩
  | ok _ =>
      refine Task.keeps_bind (Task.keeps_call trivial (fun rows _ => Task.keeps_ofRecord ?_) fun f _ => ?_)
      · exact ⟨⟨rfl, rfl, rfl⟩, by simp [Request.Preliminary]⟩
      · exact ⟨⟨rfl, rfl, rfl⟩, by simp [Request.Preliminary]⟩

/-- However a caller is told, it keeps the rule. -/
theorem serve_keeps (demand : Demand) (may : demand.isCreate = true → creates = true) :
    (x.serve demand).run.process.Keeps (callerTerms admits creates) (demand.Ends admits x) [] := by
  cases demand with
  | create workflowId payload =>
      cases may rfl
      exact Task.keeps_map create_keeps
  | get id => exact Task.keeps_map get_keeps
  | steps id => exact Task.keeps_map steps_keeps
  | run text =>
      change ((Except.map Reply.summary <$> (x.runNamed text).run : Awaited _).process).Keeps _ _ _
      rw [Awaited.process_map]
      cases read : readId text with
      | ok id =>
          rw [runNamed_of_readId read, run_process]
          refine Process.Keeps.bind runAttached_keeps fun r d course => ?_
          change (Demand.run text).Ends admits x (r.map Reply.summary) d
          simp only [Demand.Ends, read]
          exact ⟨r, course, rfl⟩
      | error e =>
          simp only [runNamed, read]
          change (Demand.run text).Ends admits x (.error e) []
          simp only [Demand.Ends, read, and_self]

end Executor

end WorkflowEngine
