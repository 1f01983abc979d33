/-
Module: WorkflowEngine.Proofs.Likeness
Layer: Proofs
Purpose: Two runs of one execution side by side.  A likeness says what two runs may be told at the same point, and
  which failures of the store pass for the same.  As long as they are told alike, two runs go in step: they ask for
  the same, clock readings and generated ids aside, and end alike (`Executor.runAttached_inStep`).
Imports: WorkflowEngine.Proofs.Accomplishment
Trusted boundary: none
Main exports: Request.Alike, Line.Alike, Likeness, Process.InStep, Process.InStep.bind, EngineError.Like, Task.InStep,
  Executor.Likened, Executor.runAttached_inStep
-/
import WorkflowEngine.Proofs.Accomplishment

namespace WorkflowEngine

/-! ## Requests and lines that are alike -/

/-- What is written at the end of a run, without what depends on the clock. -/
def Finish.timeless (f : Finish) : Finish := { f with completedAt := 0, durationMs := 0 }

namespace Request

/-- The answer depends on the time, or on what others have asked for before. -/
def Incidental : Request → Prop
  | .clock | .freshId | .note .. => True
  | _ => False

/-- The answer is the same at all times, as long as workflows stay as they are. -/
def Constant : Request → Prop
  | .sleep _ | .exchange .. | .deliver _ => True
  | .store (.getWorkflow _) | .store (.listNodes _) | .store (.listEdges _) => True
  | _ => False

/-- Two runs of an execution may ask for this at the same point. -/
inductive Alike (id : Uuid) : Request → Request → Prop where
  | constant {r : Request} (constant : r.Constant) : Alike id r r
  | incidental {r : Request} (incidental : r.Incidental) : Alike id r r
  | read : Alike id (.store (.getExecution id)) (.store (.getExecution id))
  | start (t t' : Instant) : Alike id (.store (.markRunning id t)) (.store (.markRunning id t'))
  | record {s s' : StepRow} (own : s.executionId = id) (same : s.timeless = s'.timeless) :
      Alike id (.store (.insertStep s)) (.store (.insertStep s'))
  | finish {f f' : Finish} (same : f.timeless = f'.timeless) :
      Alike id (.store (.finishExecution id f)) (.store (.finishExecution id f'))

end Request

/-- Two runs of an execution may ask for this at the same point and be told so. -/
inductive Line.Alike (id : Uuid) : Line → Line → Prop where
  | constant {r : Request} (constant : r.Constant) (a : r.Answer) : Alike id ⟨r, a⟩ ⟨r, a⟩
  | incidental {r : Request} (incidental : r.Incidental) (a a' : r.Answer) : Alike id ⟨r, a⟩ ⟨r, a'⟩
  | unread (f : StoreFault) :
      Alike id ⟨.store (.getExecution id), .error f⟩ ⟨.store (.getExecution id), .error f⟩
  | read {row row' : ExecutionRow} (own : row.id = id) (same : row.timeless = row'.timeless) :
      Alike id ⟨.store (.getExecution id), .ok row⟩ ⟨.store (.getExecution id), .ok row'⟩
  | start (t t' : Instant) (reply : Except StoreFault Bool) :
      Alike id ⟨.store (.markRunning id t), reply⟩ ⟨.store (.markRunning id t'), reply⟩
  | record {s s' : StepRow} (own : s.executionId = id) (same : s.timeless = s'.timeless)
      (reply : Except StoreFault Unit) : Alike id ⟨.store (.insertStep s), reply⟩ ⟨.store (.insertStep s'), reply⟩
  | finish {f f' : Finish} (same : f.timeless = f'.timeless) (reply : Except StoreFault Unit) :
      Alike id ⟨.store (.finishExecution id f), reply⟩ ⟨.store (.finishExecution id f'), reply⟩

/-- A call that fails tells both runs the same. -/
theorem Request.Alike.failed {id : Uuid} {c c' : StoreCall} (h : Alike id (.store c) (.store c')) (f : StoreFault) :
    Line.Alike id ⟨.store c, .error f⟩ ⟨.store c', .error f⟩ := by
  cases h with
  | constant constant => exact .constant constant _
  | incidental incidental => exact incidental.elim
  | read => exact .unread f
  | start t t' => exact .start t t' _
  | record own same => exact .record own same _
  | finish same => exact .finish same _

theorem Request.Alike.method?_eq {id : Uuid} {r r' : Request} (h : Alike id r r') : r.method? = r'.method? := by
  cases h <;> rfl

/-- A constant request is answered with one thing. -/
theorem Line.Alike.answer_eq {id : Uuid} {r : Request} {a a' : r.Answer} (constant : r.Constant)
    (h : Line.Alike id ⟨r, a⟩ ⟨r, a'⟩) : a = a' := by
  cases h with
  | constant => rfl
  | incidental incidental =>
      cases r with
      | clock | freshId | note => exact constant.elim
      | _ => exact incidental.elim
  | unread | read | start | record | finish => exact constant.elim

/-- Calls that are alike both fail, for one reason, or both succeed. -/
theorem Line.Alike.replies {id : Uuid} {c c' : StoreCall} {reply : StoreReply c} {reply' : StoreReply c'}
    (h : Line.Alike id ⟨.store c, reply⟩ ⟨.store c', reply'⟩) :
    (∃ f, reply = .error f ∧ reply' = .error f) ∨ ∃ a a', reply = .ok a ∧ reply' = .ok a' := by
  cases h with
  | constant _ reply | start _ _ reply | record _ _ reply | finish _ reply =>
      cases reply with
      | error f => exact .inl ⟨f, rfl, rfl⟩
      | ok a => exact .inr ⟨a, a, rfl, rfl⟩
  | incidental incidental => exact incidental.elim
  | unread f => exact .inl ⟨f, rfl, rfl⟩
  | read => exact .inr ⟨_, _, rfl, rfl⟩

/-! ## Likenesses -/

/-- What two runs of an execution may be told at the same point, and which failures of the store pass for the same. -/
structure Likeness (id : Uuid) where
  lines : Line → Line → Prop
  faults : StoreFault → StoreFault → Prop
  /-- Calls either both fail or both succeed, and then with answers that are alike. -/
  replies {c c' : StoreCall} {reply : StoreReply c} {reply' : StoreReply c'}
    (told : lines ⟨.store c, reply⟩ ⟨.store c', reply'⟩) :
    (∃ f f', reply = .error f ∧ reply' = .error f' ∧ faults f f') ∨
      ∃ a a', reply = .ok a ∧ reply' = .ok a' ∧ Line.Alike id ⟨.store c, .ok a⟩ ⟨.store c', .ok a'⟩
  /-- That there is no such row passes for nothing else. -/
  missing {f f' : StoreFault} (like : faults f f') : f = .notFound ↔ f' = .notFound

variable {id : Uuid} {L : Likeness id}

/-! ## Processes that go in step -/

namespace Process

variable {α β γ δ : Type}

/-- Two processes ask for the same, ids and times aside, as long as they are told alike, and end alike. -/
def InStep (L : Likeness id) (ends : α → β → Prop) : Process α → Process β → Prop
  | .done a, .done b => ends a b
  | .ask r next, .ask r' next' =>
      r.Alike id r' ∧ ∀ a a', L.lines ⟨r, a⟩ ⟨r', a'⟩ → InStep L ends (next a) (next' a')
  | _, _ => False

namespace InStep

variable {p : Process α} {q : Process β} {ends : α → β → Prop}

theorem mono {other : α → β → Prop} (h : p.InStep L ends q) (imp : ∀ a b, ends a b → other a b) :
    p.InStep L other q := by
  induction p generalizing q with
  | done a =>
      cases q with
      | done b => exact imp a b h
      | ask => exact h.elim
  | ask r next ih =>
      cases q with
      | done => exact h.elim
      | ask r' next' => exact ⟨h.1, fun a a' like => ih a (h.2 a a' like)⟩

/-- What goes in step after two processes that are in step is in step as a whole. -/
theorem bind {f : α → Process γ} {g : β → Process δ} {other : γ → δ → Prop} (h : p.InStep L ends q)
    (follows : ∀ a b, ends a b → (f a).InStep L other (g b)) : (p >>= f).InStep L other (q >>= g) := by
  induction p generalizing q with
  | done a =>
      cases q with
      | done b => exact follows a b h
      | ask => exact h.elim
  | ask r next ih =>
      cases q with
      | done => exact h.elim
      | ask r' next' => exact ⟨h.1, fun a a' like => ih a (h.2 a a' like)⟩

end InStep

end Process

/-! ## Tasks that go in step -/

/-- Two errors are the same but for why the store failed. -/
inductive EngineError.Like (faults : StoreFault → StoreFault → Prop) : EngineError → EngineError → Prop where
  | same (e : EngineError) : Like faults e e
  | store {f f' : StoreFault} (like : faults f f') : Like faults (.store f) (.store f')

/-- Two tasks end with values that are alike, or with errors that are alike. -/
inductive Task.EndLike {α β : Type} (faults : StoreFault → StoreFault → Prop) (ends : α → β → Prop) :
    Except EngineError α → Except EngineError β → Prop where
  | ok {a : α} {b : β} (alike : ends a b) : EndLike faults ends (.ok a) (.ok b)
  | error {e e' : EngineError} (like : e.Like faults e') : EndLike faults ends (.error e) (.error e')

namespace Task

variable {α β γ δ : Type} {ends : α → β → Prop} {other : γ → δ → Prop}

/-- Two tasks that go in step. -/
def InStep (L : Likeness id) (ends : α → β → Prop) (m : Task α) (m' : Task β) : Prop :=
  m.run.InStep L (EndLike L.faults ends) m'.run

theorem inStep_pure {a : α} {b : β} (alike : ends a b) : InStep L ends (pure a) (pure b) := EndLike.ok alike

theorem inStep_throw {e e' : EngineError} (like : e.Like L.faults e') : InStep L ends (throw e) (throw e') :=
  EndLike.error like

theorem inStep_bind {m : Task α} {m' : Task β} {f : α → Task γ} {g : β → Task δ} (h : InStep L ends m m')
    (follows : ∀ a b, ends a b → InStep L other (f a) (g b)) : InStep L other (m >>= f) (m' >>= g) := by
  apply Process.InStep.bind h
  intro r r' alike
  cases alike with
  | ok alike => exact follows _ _ alike
  | error like => exact inStep_throw like

theorem inStep_tryCatch {m : Task α} {m' : Task β} {f : EngineError → Task α} {g : EngineError → Task β}
    (h : InStep L ends m m') (remedy : ∀ e e', e.Like L.faults e' → InStep L ends (f e) (g e')) :
    InStep L ends (tryCatch m f) (tryCatch m' g) := by
  apply Process.InStep.bind h
  intro r r' alike
  cases alike with
  | ok alike => exact inStep_pure alike
  | error like => exact remedy _ _ like

theorem inStep_discard {m : Task α} {m' : Task β} (h : InStep L ends m m') :
    InStep L (fun _ _ => True) (discard m) (discard m') :=
  inStep_bind h fun _ _ _ => inStep_pure trivial

theorem inStep_lift {p : Process α} {q : Process β} (h : p.InStep L ends q) :
    InStep L ends (ExceptT.lift p) (ExceptT.lift q) :=
  h.bind fun _ _ alike => EndLike.ok alike

theorem inStep_request {r r' : Request} (h : r.Alike id r') :
    InStep L (fun a a' => L.lines ⟨r, a⟩ ⟨r', a'⟩) (request r) (request r') :=
  ⟨h, fun _ _ like => EndLike.ok like⟩

theorem inStep_incidental {r : Request} (incidental : r.Incidental) :
    InStep L (fun _ _ => True) (request r) (request r) :=
  ⟨.incidental incidental, fun _ _ _ => EndLike.ok trivial⟩

/-- Calls that are alike fail with errors that are alike, or succeed with answers that are alike. -/
theorem inStep_call {c c' : StoreCall} (h : Request.Alike id (.store c) (.store c')) :
    InStep L (fun a a' => Line.Alike id ⟨.store c, .ok a⟩ ⟨.store c', .ok a'⟩) (call c) (call c') := by
  refine inStep_bind (inStep_request h) ?_
  intro reply reply' told
  rcases L.replies told with ⟨f, f', rfl, rfl, like⟩ | ⟨a, a', rfl, rfl, alike⟩
  · exact inStep_throw (.store like)
  · exact inStep_pure alike

theorem inStep_call_constant {c : StoreCall} (constant : (Request.store c).Constant) :
    InStep L Eq (call c) (call c) := by
  refine inStep_bind (inStep_request (.constant constant)) ?_
  intro reply reply' told
  rcases L.replies told with ⟨f, f', rfl, rfl, like⟩ | ⟨a, a', rfl, rfl, alike⟩
  · exact inStep_throw (.store like)
  · cases alike.answer_eq constant
    exact inStep_pure rfl

end Task

/-! ## Nodes -/

/-- Two executors with the same limits, whose handlers go in step and come to what is recorded alike. -/
structure Executor.Likened (L : Likeness id) (x x' : Executor) : Prop where
  dispatch (type : Option String) (config : Config) (context : ActionContext) :
    (x.registry.dispatch type config context).InStep L (fun o o' => settled o = settled o')
      (x'.registry.dispatch type config context)
  maxSteps : x.maxSteps = x'.maxSteps
  maxDelayMs : x.maxDelayMs = x'.maxDelayMs

/-- Two executions that are one but for their times. -/
structure Execution.Alike (id : Uuid) (e e' : Execution) : Prop where
  own : e.id = id
  own' : e'.id = id
  workflowId : e.workflowId = e'.workflowId
  payload : e.payload = e'.payload
  status : e.status = e'.status

section Runs

variable {x x' : Executor} {e e' : Execution}

namespace Executor

theorem visit_inStep (likened : x.Likened L x') (same : e.Alike id e') (node : Node) (context : Context) :
    (x.visit e node context).InStep L Eq (x'.visit e' node context) := by
  have told : actionContext e node = actionContext e' node := by
    rw [actionContext, actionContext, same.workflowId, same.payload, same.own, same.own']
  unfold visit
  split
  · exact congrArg _ (congrArg _ same.payload)
  · rw [told]
    apply (likened.dispatch ..).bind
    intro outcome outcome' settles
    exact settles
  · rfl
  · have pause : x.delaySeconds node.config = x'.delaySeconds node.config := by
      rw [delaySeconds, delaySeconds, likened.maxDelayMs]
    rw [pause]
    exact ⟨.constant trivial, fun _ _ _ => rfl⟩
  · rfl
  · rfl

/-- The steps that record one visit of an execution differ in their ids and times alone. -/
theorem stepOf_timeless (same : e.Alike id e') (node : Node) (context : Context) (stepId stepId' : Uuid)
    (startedAt startedAt' completedAt completedAt' : Instant) (result : Except String NodeOutput) :
    (stepOf stepId e.id node context startedAt completedAt result).row.timeless =
      (stepOf stepId' e'.id node context startedAt' completedAt' result).row.timeless := by
  rw [same.own, same.own']
  cases result <;> rfl

theorem recordVisit_inStep (likened : x.Likened L x') (same : e.Alike id e') (node : Node) (context : Context) :
    Task.InStep L Eq (x.recordVisit e node context) (x'.recordVisit e' node context) := by
  refine Task.inStep_bind (Task.inStep_incidental trivial) ?_
  intro startedAt startedAt' _
  refine Task.inStep_bind (Task.inStep_lift (visit_inStep likened same node context)) ?_
  rintro result _ rfl
  refine Task.inStep_bind (Task.inStep_incidental trivial) ?_
  intro completedAt completedAt' _
  refine Task.inStep_bind (Task.inStep_incidental trivial) ?_
  intro stepId stepId' _
  refine Task.inStep_bind (Task.inStep_call (.record ?_ (stepOf_timeless same ..))) ?_
  · rw [← same.own]
    cases result <;> rfl
  · intro _ _ _
    exact Task.inStep_pure rfl

/-! ## Runs -/

theorem walk_inStep (likened : x.Likened L x') (same : e.Alike id e') (g : Graph) (left taken : Nat)
    (context : Context) (node : Option Node) :
    Task.InStep L Eq (x.walk e g left taken context node) (x'.walk e' g left taken context node) := by
  induction left generalizing taken context node with
  | zero => cases node <;> exact Task.inStep_pure rfl
  | succ left ih =>
      cases node with
      | none => exact Task.inStep_pure rfl
      | some node =>
          refine Task.inStep_bind (recordVisit_inStep likened same node context) ?_
          rintro result _ rfl
          cases result with
          | error message => exact Task.inStep_pure rfl
          | ok output =>
              simp only
              split
              · exact Task.inStep_pure rfl
              · exact ih ..

theorem drive_inStep (likened : x.Likened L x') (same : e.Alike id e') :
    Task.InStep L Eq (x.drive e) (x'.drive e') := by
  unfold drive
  rw [← same.workflowId, ← same.payload, ← likened.maxSteps]
  refine Task.inStep_bind (Task.inStep_request (.constant trivial)) ?_
  intro reply reply' told
  rcases L.replies told with ⟨f, f', rfl, rfl, like⟩ | ⟨row, row', rfl, rfl, alike⟩
  · cases f with
    | notFound =>
        cases (L.missing like).1 rfl
        exact Task.inStep_pure rfl
    | database | migration =>
        cases f' with
        | notFound => cases (L.missing like).2 rfl
        | database | migration => exact Task.inStep_throw (.store like)
  · have constant : (Request.store (.getWorkflow e.workflowId)).Constant := trivial
    cases alike.answer_eq constant
    refine Task.inStep_bind (Task.inStep_call_constant trivial) ?_
    rintro nodes _ rfl
    refine Task.inStep_bind (Task.inStep_call_constant trivial) ?_
    rintro edges _ rfl
    simp only
    split
    · exact Task.inStep_pure rfl
    · exact walk_inStep likened same ..

end Executor

theorem finish_inStep (clock clock' : RunClock) (stepFailed : Bool) (error : Option String) :
    Task.InStep L (fun r r' => r.status = r'.status) (finish id clock stepFailed error)
      (finish id clock' stepFailed error) := by
  refine Task.inStep_bind (Task.inStep_incidental trivial) ?_
  intro now now' _
  refine Task.inStep_bind (Task.inStep_call (.finish rfl)) ?_
  intro _ _ _
  exact Task.inStep_pure rfl

/-- Errors that are alike both say that there is no such row, or neither does. -/
theorem EngineError.Like.missing {err err' : EngineError} (like : err.Like L.faults err') :
    err = .store .notFound ↔ err' = .store .notFound := by
  cases like with
  | same => rfl
  | store like =>
      rw [EngineError.store.injEq, EngineError.store.injEq]
      exact L.missing like

theorem finalize_inStep (clock clock' : RunClock) (stepFailed : Bool) (error : Option String) (pauses : List Nat) :
    Task.InStep L (fun r r' => r.status = r'.status) (finalize id clock stepFailed error pauses)
      (finalize id clock' stepFailed error pauses) := by
  induction pauses with
  | nil => exact finish_inStep ..
  | cons pause pauses ih =>
      refine Task.inStep_tryCatch (finish_inStep ..) ?_
      intro err err' like
      simp only [like.missing]
      split
      · exact Task.inStep_throw like
      · exact Task.inStep_bind (Task.inStep_request (.constant trivial)) fun _ _ _ => ih

theorem ExecutionRow.eq_of_timeless {row row' : ExecutionRow} (same : row.timeless = row'.timeless) :
    row.id = row'.id ∧ row.workflowId = row'.workflowId ∧ row.payload = row'.payload ∧ row.status = row'.status := by
  simp only [timeless, ExecutionRow.mk.injEq] at same
  exact ⟨same.1, same.2.1, same.2.2.1, same.2.2.2.1⟩

/-- Rows that differ in times alone are read as executions that differ in times alone, or not at all. -/
theorem load_inStep : Task.InStep L (Execution.Alike id) (load id) (load id) := by
  refine Task.inStep_bind (Task.inStep_request .read) ?_
  intro reply reply' told
  rcases L.replies told with ⟨f, f', rfl, rfl, like⟩ | ⟨row, row', rfl, rfl, alike⟩
  · cases f with
    | notFound =>
        cases (L.missing like).1 rfl
        exact Task.inStep_throw (.same _)
    | database | migration =>
        cases f' with
        | notFound => cases (L.missing like).2 rfl
        | database | migration => exact Task.inStep_throw (.store like)
  · cases alike with
    | constant contra | incidental contra => exact contra.elim
    | read own same =>
        obtain ⟨sameId, workflowId, payload, status⟩ := ExecutionRow.eq_of_timeless same
        simp only [ExecutionRow.toExecution, ← status]
        cases ExecutionStatus.read row.status with
        | error reason => exact Task.inStep_throw (.same _)
        | ok s =>
            apply Task.inStep_pure
            exact ⟨own, sameId.symm.trans own, workflowId, payload, rfl⟩

theorem start_inStep (same : e.Alike id e') : Task.InStep L (fun _ _ => True) (start e) (start e') := by
  unfold start
  rw [same.own, same.own', ← same.status]
  split
  · exact Task.inStep_throw (.same _)
  · refine Task.inStep_bind (Task.inStep_incidental trivial) ?_
    intro startedAt startedAt' _
    refine Task.inStep_bind (Task.inStep_call (.start ..)) ?_
    intro won won' alike
    have one : won = won' := by
      cases alike with
      | constant => rfl
      | incidental contra => exact contra.elim
      | start => rfl
    cases one
    cases won with
    | true => exact Task.inStep_bind (Task.inStep_incidental trivial) fun _ _ _ => Task.inStep_pure trivial
    | false => exact Task.inStep_throw (.same _)

namespace Executor

theorem runStarted_inStep (likened : x.Likened L x') (same : e.Alike id e') (clock clock' : RunClock) :
    Task.InStep L (fun s s' => s.timeless = s'.timeless) (x.runStarted e clock) (x'.runStarted e' clock') := by
  unfold runStarted
  rw [same.own, same.own']
  refine Task.inStep_bind (Task.inStep_tryCatch (drive_inStep likened same) fun err err' like => ?_) ?_
  · refine Task.inStep_bind (Task.inStep_tryCatch (Task.inStep_discard (finalize_inStep ..)) fun _ _ _ => ?_) ?_
    · exact Task.inStep_pure trivial
    · exact fun _ _ _ => Task.inStep_throw like
  · rintro outcome _ rfl
    refine Task.inStep_bind (finalize_inStep ..) ?_
    intro finished finished' status
    apply Task.inStep_pure
    simp only [Summary.timeless, status]

/-- Two runs go in step: told alike, they do and record the same, but for times and ids. -/
theorem runAttached_inStep (likened : x.Likened L x') :
    Task.InStep L (fun s s' => s.timeless = s'.timeless) (x.runAttached id) (x'.runAttached id) := by
  refine Task.inStep_bind load_inStep ?_
  intro e e' same
  exact Task.inStep_bind (start_inStep same) fun clock clock' _ => runStarted_inStep likened same clock clock'

end Executor

end Runs

end WorkflowEngine
