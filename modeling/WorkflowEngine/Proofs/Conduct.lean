/-
Module: WorkflowEngine.Proofs.Conduct
Layer: Proofs
Purpose: How the requests of callers conduct themselves, however they are answered.  Nothing is written, and
  nothing is sent out, for an execution that the caller itself did not start; no step follows one that failed;
  and what is written at the end suits the steps (`Conduct`).  The walk of a run keeps to that and records the
  visits of a trail, or breaks off where the store fails (`Executor.walk_keeps`).
Imports: WorkflowEngine.Proofs.Dialogue, WorkflowEngine.Proofs.Trail
Trusted boundary: none
Main exports: Finish.Suits, Conduct, Dialogue.Open, Dialogue.Smooth, Executor.WalkEnds, Executor.walk_keeps
-/
import WorkflowEngine.Proofs.Dialogue
import WorkflowEngine.Proofs.Trail

namespace WorkflowEngine

/-! ## The rule -/

/-- Every step was completed. -/
def AllCompleted (steps : List StepRow) : Prop := ∀ s ∈ steps, s.status = StepStatus.completed.name

theorem AllCompleted.nil : AllCompleted [] := by
  intro s member
  cases member

/-- The last step failed, and every step before it was completed. -/
def FailedLast (steps : List StepRow) : Prop :=
  ∃ before last, steps = before ++ [last] ∧ last.status = StepStatus.failed.name ∧ AllCompleted before

/-- What is written at the end of an execution tells the same as its steps. -/
inductive Finish.Suits (f : Finish) (steps : List StepRow) : Prop where
  | completed (status : f.status = ExecutionStatus.completed.name) (unset : f.error = none)
      (sound : AllCompleted steps)
  | stepFailed (status : f.status = ExecutionStatus.failed.name) (unset : f.error = none)
      (failed : FailedLast steps)
  | otherwise (status : f.status = ExecutionStatus.failed.name) (set : f.error ≠ none)
      (sound : AllCompleted steps)

/-- A dialogue in which an execution was started and not ended. -/
structure Dialogue.Holds (d : Dialogue) (id : Uuid) : Prop where
  held : d.held? = some id
  unfinished : d.finish? = none

/-- A dialogue in which an execution was started, and neither ended nor seen to fail. -/
structure Dialogue.Open (d : Dialogue) (id : Uuid) : Prop extends d.Holds id where
  sound : AllCompleted d.steps

/-- A request acts on the outside: on a host, by mail, or through a supplied handler. -/
def Request.Outward : Request → Prop
  | .exchange .. | .deliver _ | .note .. => True
  | _ => False

/-- What a caller may ask for after a dialogue.  Only what was started by the caller itself is written to or acts
on the outside. -/
def Conduct (creates : Bool) (d : Dialogue) : Request → Prop
  | .store (.createExecution ..) => creates = true
  | .store (.markRunning ..) => d.start? = none
  | .store (.insertStep s) => d.Open s.executionId ∧ ∃ status : StepStatus, s.status = status.name
  | .store (.finishExecution id f) => d.Holds id ∧ f.Suits d.steps
  | .exchange .. | .deliver _ | .note .. => d.start? ≠ none
  | _ => True

/-! ## Lines between writes -/

/-- The kinds of calls that a walk makes. -/
def StoreMethod.walks : StoreMethod → Bool
  | .getWorkflow | .listNodes | .listEdges | .insertStep => true
  | _ => false

/-- The walk of a run goes on without a failure of the store. -/
def Dialogue.Smooth (d : Dialogue) : Prop :=
  ∀ l ∈ d, l.fault? = none ∧ ∀ m, l.request.method? = some m → m.walks = true

namespace Dialogue

variable {c d : Dialogue} {id : Uuid}

theorem smooth_nil : Smooth [] := by
  intro l member
  cases member

theorem smooth_of_aside (h : ∀ l ∈ d, l.request.method? = none) : d.Smooth := by
  intro l member
  refine ⟨Line.fault?_of_method (h l member), fun m method => ?_⟩
  rw [h l member] at method
  cases method

theorem Smooth.append (hc : c.Smooth) (hd : d.Smooth) : (c ++ d).Smooth := by
  intro l member
  rcases List.mem_append.mp member with first | second
  · exact hc l first
  · exact hd l second

theorem Smooth.start? (h : d.Smooth) : d.start? = none :=
  start?_eq_none fun l member method => by simpa [StoreMethod.walks] using (h l member).2 _ method

theorem Smooth.finish? (h : d.Smooth) : d.finish? = none :=
  finish?_eq_none fun l member method => by simpa [StoreMethod.walks] using (h l member).2 _ method

theorem Holds.append_quiet (h : c.Holds id) (quiet : d.Quiet) : (c ++ d).Holds id where
  held := quiet.held?_append.trans h.held
  unfinished := quiet.finish?_append.trans h.unfinished

theorem Open.append_quiet (h : c.Open id) (quiet : d.Quiet) : (c ++ d).Open id where
  toHolds := h.toHolds.append_quiet quiet
  sound := by rw [quiet.steps_append]; exact h.sound

theorem Holds.append_smooth (h : c.Holds id) (smooth : d.Smooth) : (c ++ d).Holds id where
  held := by
    have held := h.held
    simp only [held?, start?_append, smooth.start?, Option.or_none] at held ⊢
    exact held
  unfinished := by rw [finish?_append, h.unfinished, smooth.finish?, Option.or_none]

/-- A dialogue stays open while nothing is written but steps that were completed. -/
theorem Open.append (h : c.Open id) (smooth : d.Smooth) (sound : AllCompleted d.steps) :
    (c ++ d).Open id where
  toHolds := h.toHolds.append_smooth smooth
  sound := by
    intro s member
    rw [steps_append] at member
    rcases List.mem_append.mp member with old | new
    · exact h.sound s old
    · exact sound s new

theorem Holds.started (h : d.Holds id) : d.start? ≠ none := by
  intro absent
  have held := h.held
  simp [held?, absent] at held

end Dialogue

/-! ## Visits -/

/-- The terms of callers: answers as they may be given, and requests by the rule. -/
def callerTerms (admits : Answers) (creates : Bool) : Terms := ⟨admits, Conduct creates⟩

variable {admits : Answers} {creates : Bool} {x : Executor} {e : Execution} {d : Dialogue}

theorem Handler.run_aside (config : Config) (context : ActionContext) (h : Handler) :
    (h.run config context).Aside := by
  cases h with
  | sendMessage => trivial
  | runAgent =>
      simp only [Handler.run]
      split <;> trivial
  | sendEmail =>
      refine ⟨rfl, fun a => ?_⟩
      cases a <;> trivial
  | webhook timeoutMs =>
      simp only [Handler.run]
      split
      · trivial
      · refine ⟨rfl, fun a => ?_⟩
        rcases a with _ | _ | _ <;> trivial
  | wait limitMs => exact ⟨rfl, fun _ => trivial⟩
  | supplied name act => exact ⟨rfl, fun _ => trivial⟩
  | stateful name act => exact ⟨rfl, fun _ => trivial⟩

/-- The rule lets a caller do anything outside the store once it has started an execution. -/
theorem Conduct.aside {r : Request} (aside : r.method? = none) (started : d.start? ≠ none) :
    Conduct creates d r := by
  cases r with
  | store call => cases aside
  | exchange | deliver | note => exact started
  | clock | freshId | sleep => trivial

theorem Conduct.started_of_outward {r : Request} (h : Conduct creates d r) (outward : r.Outward) :
    d.start? ≠ none := by
  cases r with
  | exchange | deliver | note => exact h
  | store | clock | freshId | sleep => cases outward

namespace Executor

theorem dispatch_aside (r : Registry) (type : Option String) (config : Config) (context : ActionContext) :
    (r.dispatch type config context).Aside := by
  unfold Registry.dispatch
  split
  · exact Handler.run_aside ..
  · trivial

theorem visit_aside (node : Node) (context : Context) : (x.visit e node context).Aside := by
  unfold visit
  split
  · trivial
  · exact (dispatch_aside ..).bind fun _ => trivial
  · trivial
  · exact ⟨rfl, fun _ => trivial⟩
  · trivial
  · trivial

/-- What can come of a visit when requests are answered as they may be. -/
abbrev Possible (admits : Answers) (x : Executor) (e : Execution) (node : Node) (context : Context) :
    Except String NodeOutput → Prop :=
  (x.visit e node context).Yields admits

/-- What a recorded visit says, and how it ends. -/
inductive VisitEnds (admits : Answers) (x : Executor) (e : Execution) (node : Node) (context : Context) :
    Dialogue → Except EngineError (Except String NodeOutput) → Prop where
  | recorded {pre : Dialogue} {result : Except String NodeOutput} {row : StepRow}
      (aside : ∀ l ∈ pre, l.request.method? = none) (possible : Possible admits x e node context result)
      (row_eq : Visit.Recorded e.id ⟨node, context, result⟩ row) :
      VisitEnds admits x e node context (pre ++ [⟨.store (.insertStep row), .ok ()⟩]) (.ok result)
  | unrecorded {pre : Dialogue} {row : StepRow} {f : StoreFault}
      (aside : ∀ l ∈ pre, l.request.method? = none) :
      VisitEnds admits x e node context (pre ++ [⟨.store (.insertStep row), .error f⟩]) (.error (.store f))

theorem recordVisit_keeps {node : Node} {context : Context} (h : d.Open e.id) :
    (x.recordVisit e node context).run.Keeps (callerTerms admits creates)
      (fun r d' => ∃ body, d' = d ++ body ∧ VisitEnds admits x e node context body r) d := by
  refine Task.keeps_bind ⟨trivial, fun startedAt _ => ?_⟩
  have opened : (d ++ [(⟨.clock, startedAt⟩ : Line)]).Open e.id :=
    h.append_quiet ⟨rfl, rfl, rfl⟩
  have look := (visit_aside (x := x) (e := e) node context).keeps
    (t := callerTerms admits creates) (d := d ++ [⟨.clock, startedAt⟩])
    fun r aside pre hpre => Conduct.aside aside (opened.append_quiet (Dialogue.quiet_of_aside hpre)).toHolds.started
  refine Task.keeps_bind (Task.keeps_lift (look.mono ?_))
  rintro result _ ⟨mid, rfl, aside, possible⟩
  refine Task.keeps_bind ⟨trivial, fun completedAt _ => ?_⟩
  refine Task.keeps_bind ⟨trivial, fun id _ => ?_⟩
  let pre : Dialogue := ⟨.clock, startedAt⟩ :: (mid ++ [⟨.clock, completedAt⟩, ⟨.freshId, id⟩])
  have preAside : ∀ l ∈ pre, l.request.method? = none := by
    intro l member
    simp only [pre, List.mem_cons, List.mem_append, List.not_mem_nil, or_false] at member
    rcases member with rfl | old | rfl | rfl
    · rfl
    · exact aside l old
    · rfl
    · rfl
  have gathered : d ++ [⟨.clock, startedAt⟩] ++ mid ++ [⟨.clock, completedAt⟩] ++ [⟨.freshId, id⟩]
      = d ++ pre := by simp [pre]
  rw [gathered]
  have recorded : Visit.Recorded e.id ⟨node, context, result⟩
      (stepOf id e.id node context startedAt completedAt result).row := ⟨id, startedAt, completedAt, rfl⟩
  refine Task.keeps_bind (Task.keeps_call ⟨?_, _, recorded.status_eq⟩ (fun a _ => ?_) fun f _ => ?_)
  · rw [recorded.executionId_eq]
    exact h.append_quiet (Dialogue.quiet_of_aside preAside)
  · exact ⟨_, List.append_assoc .., .recorded preAside possible recorded⟩
  · exact ⟨_, List.append_assoc .., .unrecorded preAside⟩

/-! ## Walks -/

/-- What the walk of a run says, and how it ends: it records every visit of a trail, or breaks off where the
store fails. -/
inductive WalkEnds (admits : Answers) (x : Executor) (e : Execution) (g : Graph) (left taken : Nat)
    (context : Context) (node : Option Node) : Dialogue → Except EngineError Traversal → Prop where
  | whole {body : Dialogue} {visits : List Visit}
      (trail : Trail g (Possible admits x e) left context node visits) (smooth : body.Smooth)
      (logged : Logged e.id visits body.steps) :
      WalkEnds admits x e g left taken context node body
        (.ok (.ended (taken + visits.length) (visits.any Visit.failed)))
  | broken {body : Dialogue} {row : StepRow} {f : StoreFault} (smooth : body.Smooth)
      (sound : AllCompleted body.steps) :
      WalkEnds admits x e g left taken context node (body ++ [⟨.store (.insertStep row), .error f⟩])
        (.error (.store f))

private theorem recorded_smooth {pre : Dialogue} (row : StepRow) (aside : ∀ l ∈ pre, l.request.method? = none) :
    Dialogue.Smooth (pre ++ [⟨.store (.insertStep row), .ok ()⟩]) := by
  apply (Dialogue.smooth_of_aside aside).append
  intro l member
  rw [List.mem_singleton.mp member]
  refine ⟨rfl, fun m method => ?_⟩
  cases method
  rfl

private theorem recorded_steps {pre : Dialogue} (row : StepRow) (aside : ∀ l ∈ pre, l.request.method? = none) :
    Dialogue.steps (pre ++ [⟨.store (.insertStep row), .ok ()⟩]) = [row] := by
  rw [Dialogue.steps_append, (Dialogue.quiet_of_aside aside).steps]
  rfl

private theorem status_of_ok {node : Node} {context : Context} {output : NodeOutput} {row : StepRow}
    (h : Visit.Recorded e.id ⟨node, context, .ok output⟩ row) : row.status = StepStatus.completed.name :=
  h.status_eq

/-- A visit after which the walk stops makes a walk. -/
theorem WalkEnds.single {g : Graph} {left taken : Nat} {context : Context} {node : Node}
    {result : Except String NodeOutput} {pre : Dialogue} {row : StepRow} (aside : ∀ l ∈ pre, l.request.method? = none)
    (recorded : Visit.Recorded e.id ⟨node, context, result⟩ row)
    (trail : Trail g (Possible admits x e) (left + 1) context (some node) [⟨node, context, result⟩]) :
    WalkEnds admits x e g (left + 1) taken context (some node) (pre ++ [⟨.store (.insertStep row), .ok ()⟩])
      (.ok (.ended (taken + 1) ([(⟨node, context, result⟩ : Visit)].any Visit.failed))) := by
  refine .whole trail (recorded_smooth row aside) ?_
  rw [recorded_steps row aside]
  exact .cons recorded .nil

/-- A visit that succeeded, and the walk that goes on from there, make a walk. -/
theorem WalkEnds.onward {g : Graph} {left taken : Nat} {context : Context} {node : Node} {output : NodeOutput}
    {pre rest : Dialogue} {row : StepRow} {r : Except EngineError Traversal}
    (aside : ∀ l ∈ pre, l.request.method? = none) (possible : Possible admits x e node context (.ok output))
    (recorded : Visit.Recorded e.id ⟨node, context, .ok output⟩ row) (inner : node.kind ≠ .terminal)
    (h : WalkEnds admits x e g left (taken + 1) (extend context node output)
      (g.next? node (extend context node output).conditionResult?) rest r) :
    WalkEnds admits x e g (left + 1) taken context (some node)
      (pre ++ [⟨.store (.insertStep row), .ok ()⟩] ++ rest) r := by
  have smooth := recorded_smooth row aside
  have steps := recorded_steps row aside
  cases h with
  | whole trail restSmooth logged =>
      have count : ∀ n, taken + 1 + n = taken + (n + 1) := by omega
      rw [count]
      refine .whole (.onward possible inner trail) (smooth.append restSmooth) ?_
      rw [Dialogue.steps_append, steps]
      exact .cons recorded logged
  | broken restSmooth sound =>
      rw [← List.append_assoc]
      refine .broken (smooth.append restSmooth) ?_
      rw [Dialogue.steps_append, steps]
      intro s member
      rcases List.mem_cons.mp member with rfl | later
      · exact status_of_ok recorded
      · exact sound s later

theorem walk_keeps {g : Graph} {left taken : Nat} {context : Context} {node : Option Node} (h : d.Open e.id) :
    (x.walk e g left taken context node).run.Keeps (callerTerms admits creates)
      (fun r d' => ∃ body, d' = d ++ body ∧ WalkEnds admits x e g left taken context node body r) d := by
  induction left generalizing taken context node d with
  | zero =>
      cases node with
      | none => exact ⟨[], by simp, .whole .astray Dialogue.smooth_nil .nil⟩
      | some node => exact ⟨[], by simp, .whole .spent Dialogue.smooth_nil .nil⟩
  | succ left ih =>
      cases node with
      | none => exact ⟨[], by simp, .whole .astray Dialogue.smooth_nil .nil⟩
      | some node =>
          refine Task.keeps_bind ((recordVisit_keeps h).mono ?_)
          rintro _ _ ⟨_, rfl, ends⟩
          cases ends with
          | unrecorded aside =>
              refine ⟨_, rfl, .broken (Dialogue.smooth_of_aside aside) ?_⟩
              rw [(Dialogue.quiet_of_aside aside).steps]
              exact .nil
          | @recorded pre result row aside possible recorded =>
              cases result with
              | error message => exact ⟨_, rfl, .single aside recorded (.failed possible)⟩
              | ok output =>
                  simp only
                  split
                  · rename_i terminal
                    exact ⟨_, rfl, .single aside recorded (.arrived possible terminal)⟩
                  · rename_i inner
                    have opened : (d ++ (pre ++ [(⟨.store (.insertStep row), .ok ()⟩ : Line)])).Open e.id := by
                      apply h.append (recorded_smooth row aside)
                      rw [recorded_steps row aside]
                      intro s member
                      rw [List.mem_singleton.mp member]
                      exact status_of_ok recorded
                    apply (ih opened).mono
                    rintro r _ ⟨rest, rfl, ends⟩
                    exact ⟨_, List.append_assoc .., .onward aside possible recorded inner ends⟩

end Executor

end WorkflowEngine
