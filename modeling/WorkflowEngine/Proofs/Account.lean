/-
Module: WorkflowEngine.Proofs.Account
Layer: Proofs
Purpose: What a store holds of an execution, accounted for by what callers have said.  As long as callers follow
  the rule and calls that fail have no effect, the row and the steps of an execution are what they were at first,
  or exactly what the one caller that started it has written since (`Account.told`).
Imports: WorkflowEngine.Proofs.Course, WorkflowEngine.Proofs.Interleaving, WorkflowEngine.Proofs.Serving
Trusted boundary: none
Main exports: Dialogue.Lawful, Dialogue.written, Account, Account.told, Account.settled, Executor.pool
-/
import WorkflowEngine.Proofs.Course
import WorkflowEngine.Proofs.Interleaving
import WorkflowEngine.Proofs.Serving

namespace WorkflowEngine

/-! ## Dialogues that follow the rule -/

namespace Dialogue

/-- What the rule makes of a dialogue, one request after another. -/
structure Lawful (d : Dialogue) : Prop where
  unstarted : d.start? = none → d.Quiet
  inward : d.start? = none → ∀ l ∈ d, ¬ l.request.Outward
  suits : ∀ f, d.finish? = some f → f.Suits d.steps
  shape : AllCompleted d.steps ∨ FailedLast d.steps

variable {creates : Bool} {d : Dialogue} {l : Line}

theorem lawful_nil : Lawful [] where
  unstarted _ := ⟨rfl, rfl, rfl⟩
  inward _ l member := by cases member
  suits f finish := by cases finish
  shape := .inl .nil

theorem Lawful.snoc (h : d.Lawful) (conduct : Conduct creates d l.request) : (d ++ [l]).Lawful := by
  have inward (absent : start? (d ++ [l]) = none) : ∀ k ∈ d ++ [l], ¬ k.request.Outward := by
    rw [start?_append] at absent
    have before := (Option.or_eq_none_iff.mp absent).1
    intro k member
    rcases List.mem_append.mp member with old | new
    · exact h.inward before k old
    · rw [List.mem_singleton.mp new]
      exact fun outward => conduct.started_of_outward outward before
  rcases l.quiet_or_writes with quiet | ⟨id, startedAt, rfl⟩ | ⟨step, rfl⟩ | ⟨id, f, rfl⟩
  · refine ⟨fun absent => ?_, inward, ?_, ?_⟩
    · rw [quiet.start?_append] at absent
      exact (h.unstarted absent).append quiet
    · rw [quiet.finish?_append, quiet.steps_append]
      exact h.suits
    · rw [quiet.steps_append]
      exact h.shape
  · have before := h.unstarted conduct
    refine ⟨fun absent => ?_, inward, fun f finish => ?_, .inl ?_⟩
    · rw [start?_append, before.start?] at absent
      cases absent
    · rw [finish?_append, before.finish?] at finish
      cases finish
    · rw [steps_append, before.steps]
      exact .nil
  · obtain ⟨opened, status, named⟩ := conduct
    have steps : steps (d ++ [⟨.store (.insertStep step), .ok ()⟩]) = d.steps ++ [step] := steps_append ..
    refine ⟨fun absent => ?_, inward, fun f finish => ?_, ?_⟩
    · rw [start?_append] at absent
      exact absurd (Option.or_eq_none_iff.mp absent).1 opened.toHolds.started
    · rw [finish?_append, opened.unfinished] at finish
      cases finish
    · rw [steps]
      cases status with
      | failed => exact .inr ⟨d.steps, step, rfl, named, opened.sound⟩
      | completed =>
          refine .inl fun s member => ?_
          rcases List.mem_append.mp member with old | new
          · exact opened.sound s old
          · rw [List.mem_singleton.mp new]
            exact named
  · obtain ⟨holds, suits⟩ := conduct
    have steps : steps (d ++ [⟨.store (.finishExecution id f), .ok ()⟩]) = d.steps :=
      (steps_append ..).trans (List.append_nil _)
    refine ⟨fun absent => ?_, inward, fun g finish => ?_, ?_⟩
    · rw [start?_append] at absent
      exact absurd (Option.or_eq_none_iff.mp absent).1 holds.started
    · rw [finish?_append, holds.unfinished] at finish
      cases finish
      rw [steps]
      exact suits
    · rw [steps]
      exact h.shape

/-- The rule makes the dialogues of all callers. -/
theorem lawful_update {ι : Type} [DecidableEq ι] {D : ι → Dialogue} {i : ι} (h : ∀ j, (D j).Lawful)
    (conduct : Conduct creates (D i) l.request) (j : ι) : (Function.update D i (D i ++ [l]) j).Lawful := by
  by_cases own : j = i
  · subst own
    rw [Function.update_self]
    exact (h j).snoc conduct
  · rw [Function.update_of_ne own]
    exact h j

/-- What a caller started first stays started by it. -/
theorem held?_update {ι : Type} [DecidableEq ι] {D : ι → Dialogue} {j : ι} {id : Uuid} (h : (D j).held? = some id)
    (i : ι) (c : Dialogue) : (Function.update D i (D i ++ c) j).held? = some id := by
  by_cases own : j = i
  · subst own
    rw [Function.update_self]
    exact held?_append_of_some h
  · rw [Function.update_of_ne own]
    exact h

/-- A row with what was written in a dialogue. -/
def written (d : Dialogue) (row : ExecutionRow) : ExecutionRow :=
  let begun := match d.start? with
    | some (_, startedAt) => row.started startedAt
    | none => row
  match d.finish? with
    | some f => begun.finished f
    | none => begun

theorem written_quiet {row : ExecutionRow} {c : Dialogue} (quiet : c.Quiet) :
    written (d ++ c) row = d.written row := by
  simp only [written, quiet.start?_append, quiet.finish?_append]

@[simp] theorem written_id (d : Dialogue) (row : ExecutionRow) : (d.written row).id = row.id := by
  unfold written
  cases d.start? <;> cases d.finish? <;> rfl

/-- An execution that was started is pending no more. -/
theorem Lawful.written_not_pending {row : ExecutionRow} (h : d.Lawful) (started : d.start? ≠ none) :
    (d.written row).status ≠ ExecutionStatus.pending.name := by
  obtain ⟨⟨id, startedAt⟩, start⟩ := Option.ne_none_iff_exists'.mp started
  cases finish : d.finish? with
  | none => simp [written, start, finish, ExecutionRow.started, ExecutionStatus.name]
  | some f =>
      cases h.suits f finish with
      | completed status | stepFailed status | otherwise status =>
          simp [written, start, finish, ExecutionRow.finished, status, ExecutionStatus.name]

/-- An execution that was started has a state that can be read. -/
theorem Lawful.written_known {row : ExecutionRow} (h : d.Lawful) (started : d.start? ≠ none) :
    ∃ status : ExecutionStatus, (d.written row).status = status.name := by
  obtain ⟨⟨id, startedAt⟩, start⟩ := Option.ne_none_iff_exists'.mp started
  cases finish : d.finish? with
  | none => exact ⟨.running, by simp only [written, start, finish, ExecutionRow.started]⟩
  | some f =>
      cases h.suits f finish with
      | completed status => exact ⟨.completed, by simp only [written, start, finish]; exact status⟩
      | stepFailed status | otherwise status => exact ⟨.failed, by simp only [written, start, finish]; exact status⟩

theorem Holds.written_running {id : Uuid} {row : ExecutionRow} (h : d.Holds id) :
    (d.written row).status = ExecutionStatus.running.name := by
  obtain ⟨⟨id, startedAt⟩, start⟩ := Option.ne_none_iff_exists'.mp h.started
  simp [written, start, h.unfinished, ExecutionRow.started]

end Dialogue

/-! ## Accounts -/

/-- What a store holds of an execution is the row and the steps that there were at first, or what the caller that
started it has written since. -/
inductive Account {ι : Type} (id : Uuid) (base : Option ExecutionRow) (log : List StepRow) (s : MemoryStore)
    (D : ι → Dialogue) : Prop where
  | idle (free : ∀ i, (D i).held? ≠ some id) (holds : s.Holds id base log)
  | held {row : ExecutionRow} {i : ι} (base_eq : base = some row) (pending : row.status = ExecutionStatus.pending.name)
      (holder : (D i).held? = some id) (only : ∀ j, (D j).held? = some id → j = i)
      (holds : s.Holds id (some ((D i).written row)) (log ++ (D i).steps))

namespace Account

variable {ι : Type} [DecidableEq ι] {id : Uuid} {base : Option ExecutionRow} {log : List StepRow}
  {s s' : MemoryStore} {D : ι → Dialogue} {i : ι} {l : Line}

/-- A caller says something that is not about the execution, and the store holds the same of it. -/
private theorem keep (h : Account id base log s D) {d : Dialogue}
    (held : d.held? = some id ↔ (D i).held? = some id)
    (written : (D i).held? = some id → d.steps = (D i).steps ∧ ∀ row, d.written row = (D i).written row)
    (same : ∀ row log, s.Holds id row log → s'.Holds id row log) :
    Account id base log s' (Function.update D i d) := by
  have heldAll (j : ι) : (Function.update D i d j).held? = some id ↔ (D j).held? = some id := by
    by_cases own : j = i
    · subst own
      rw [Function.update_self]
      exact held
    · rw [Function.update_of_ne own]
  cases h with
  | idle free holds => exact .idle (fun j => (heldAll j).not.mpr (free j)) (same _ _ holds)
  | @held row k base_eq pending holder only holds =>
      refine .held base_eq pending ((heldAll k).mpr holder) (fun j other => only j ((heldAll j).mp other)) ?_
      by_cases own : k = i
      · subst own
        obtain ⟨steps, written⟩ := written holder
        rw [Function.update_self, steps, written]
        exact same _ _ holds
      · rw [Function.update_of_ne own]
        exact same _ _ holds

/-- A caller that started another execution writes to that. -/
private theorem elsewhere (h : Account id base log s D) {other : Uuid} {d : Dialogue}
    (holder : (D i).held? = some other) (held : d.held? = some other) (ne : other ≠ id)
    (same : ∀ row log, s.Holds id row log → s'.Holds id row log) :
    Account id base log s' (Function.update D i d) :=
  h.keep (by rw [holder, held]) (fun own => absurd (Option.some.inj (holder.symm.trans own)) ne) same

/-- A caller starts the execution. -/
private theorem start (h : Account id base log s D) (lawful : ∀ j, (D j).Lawful) {row : ExecutionRow}
    {startedAt : Instant} (unstarted : (D i).start? = none) (found : s.executions.find? id = some row)
    (pending : row.status = ExecutionStatus.pending.name) :
    Account id base log { s with executions := s.executions.put id (row.started startedAt) }
      (Function.update D i (D i ++ [⟨.store (.markRunning id startedAt), .ok true⟩])) := by
  cases h with
  | held base_eq pendingFirst holder only holds =>
      rename_i first k
      have late : ((D k).written first).status ≠ ExecutionStatus.pending.name := by
        apply (lawful k).written_not_pending
        intro absent
        simp [Dialogue.held?, absent] at holder
      have same : row = (D k).written first := Option.some.inj (found.symm.trans holds.row)
      exact absurd (same ▸ pending) late
  | idle free holds =>
      have quiet := (lawful i).unstarted unstarted
      have held : Dialogue.held? (D i ++ [⟨.store (.markRunning id startedAt), .ok true⟩]) = some id := by
        rw [Dialogue.held?, Dialogue.start?_append, unstarted]
        rfl
      refine .held (holds.row.symm.trans found) pending (i := i) ?_ (fun j other => ?_) ?_
      · rw [Function.update_self]
        exact held
      · by_contra ne
        rw [Function.update_of_ne ne] at other
        exact free j other
      · rw [Function.update_self, Dialogue.steps_append, quiet.steps]
        have written : Dialogue.written (D i ++ [⟨.store (.markRunning id startedAt), .ok true⟩]) row
            = row.started startedAt := by
          simp only [Dialogue.written, Dialogue.start?_append, Dialogue.finish?_append, quiet.start?, quiet.finish?]
          rfl
        have steps : Dialogue.steps [⟨.store (.markRunning id startedAt), .ok true⟩] = [] := rfl
        rw [written, List.nil_append, steps, List.append_nil]
        exact holds.put_self _

/-- The caller that started the execution writes to it. -/
private theorem write (h : Account id base log s D) (holder : (D i).held? = some id) {d : Dialogue}
    (held : d.held? = some id)
    (writes : ∀ row, s.Holds id (some ((D i).written row)) (log ++ (D i).steps) →
      s'.Holds id (some (d.written row)) (log ++ d.steps)) :
    Account id base log s' (Function.update D i d) := by
  cases h with
  | idle free holds => exact absurd holder (free i)
  | @held row k base_eq pending _ only holds =>
      cases only i holder
      refine .held base_eq pending (i := i) ?_ (fun j other => ?_) ?_
      · rw [Function.update_self]
        exact held
      · by_contra ne
        rw [Function.update_of_ne ne] at other
        exact ne (only j other)
      · rw [Function.update_self]
        exact writes row holds

private theorem record (h : Account id base log s D) {step : StepRow} (holder : (D i).held? = some id) :
    Account id base log { s with steps := s.steps.put id (s.stepsOf id ++ [step]) }
      (Function.update D i (D i ++ [⟨.store (.insertStep step), .ok ()⟩])) := by
  have start? : Dialogue.start? (D i ++ [⟨.store (.insertStep step), .ok ()⟩]) = (D i).start? := by
    rw [Dialogue.start?_append]
    exact Option.or_none
  have finish? : Dialogue.finish? (D i ++ [⟨.store (.insertStep step), .ok ()⟩]) = (D i).finish? := by
    rw [Dialogue.finish?_append]
    exact Option.or_none
  refine h.write holder (Dialogue.held?_append_of_some holder) fun row holds => ?_
  have written : Dialogue.written (D i ++ [⟨.store (.insertStep step), .ok ()⟩]) row = (D i).written row := by
    simp only [Dialogue.written, start?, finish?]
  rw [written, Dialogue.steps_append, ← List.append_assoc, ← holds.log]
  exact holds.log_self _

private theorem finish (h : Account id base log s D) {f : Finish} {row : ExecutionRow} (holds : (D i).Holds id)
    (found : s.executions.find? id = some row) :
    Account id base log { s with executions := s.executions.put id (row.finished f) }
      (Function.update D i (D i ++ [⟨.store (.finishExecution id f), .ok ()⟩])) := by
  have start? : Dialogue.start? (D i ++ [⟨.store (.finishExecution id f), .ok ()⟩]) = (D i).start? := by
    rw [Dialogue.start?_append]
    exact Option.or_none
  have steps : Dialogue.steps (D i ++ [⟨.store (.finishExecution id f), .ok ()⟩]) = (D i).steps :=
    (Dialogue.steps_append ..).trans (List.append_nil _)
  refine h.write holds.held (Dialogue.held?_append_of_some holds.held) fun first stored => ?_
  have same : row = (D i).written first := Option.some.inj (found.symm.trans stored.row)
  have written : Dialogue.written (D i ++ [⟨.store (.finishExecution id f), .ok ()⟩]) first = row.finished f := by
    rw [same]
    simp only [Dialogue.written, start?, Dialogue.finish?_append, holds.unfinished]
    rfl
  rw [written, steps]
  exact stored.put_self _

/-- Whatever a caller that follows the rule is told, the account stays right. -/
theorem told {creates : Bool} {env : Environment} {w w' : World MemoryStore} (h : Account id base log w.store D)
    (lawful : ∀ j, (D j).Lawful) (conduct : Conduct creates (D i) l.request) (served : Served env w w' l)
    (other : ∀ workflowId payload row, l = ⟨.store (.createExecution workflowId payload), .ok row⟩ →
      env.ids w.issued ≠ id) :
    Account id base log w'.store (Function.update D i (D i ++ [l])) := by
  rcases l.quiet_or_writes with quiet | ⟨id', startedAt, rfl⟩ | ⟨step, rfl⟩ | ⟨id', f, rfl⟩
  · exact h.keep (by rw [quiet.held?_append]) (fun _ => ⟨quiet.steps_append, fun _ => Dialogue.written_quiet quiet⟩)
      fun row log holds => served.holds_quiet quiet other holds
  · obtain ⟨row, found, pending, stored⟩ := MemoryStore.answer_markRunning_true served.answer_ok
    rw [stored]
    by_cases own : id' = id
    · subst own
      exact h.start lawful conduct found pending
    · have unstarted : (D i).start? = none := conduct
      have free : (D i).held? = none := by rw [Dialogue.held?, unstarted]; rfl
      have held : Dialogue.held? (D i ++ [⟨.store (.markRunning id' startedAt), .ok true⟩]) = some id' := by
        rw [Dialogue.held?, Dialogue.start?_append, unstarted]
        rfl
      refine h.keep ?_ (fun owns => ?_) fun row log holds => holds.put_other own _
      · rw [held, free]
        simp [own]
      · rw [free] at owns
        cases owns
  · obtain ⟨opened, -⟩ := conduct
    rw [MemoryStore.answer_insertStep_ok served.answer_ok]
    by_cases own : step.executionId = id
    · subst own
      exact h.record opened.held
    · exact h.elsewhere opened.held (Dialogue.held?_append_of_some opened.held) own fun row log holds =>
        holds.log_other own _
  · obtain ⟨holds, -⟩ := conduct
    obtain ⟨row, found, running, stored⟩ := MemoryStore.answer_finishExecution_ok served.answer_ok
    rw [stored]
    by_cases own : id' = id
    · subst own
      exact h.finish holds found
    · exact h.elsewhere holds.held (Dialogue.held?_append_of_some holds.held) own fun row log holds =>
        holds.put_other own _

/-- An execution comes into being. -/
theorem created {env : Environment} {w w' : World MemoryStore} (h : Account id none log w.store D) {workflowId : Uuid}
    {payload : Json} {row : ExecutionRow}
    (served : Served env w w' ⟨.store (.createExecution workflowId payload), .ok row⟩) (fresh : env.ids w.issued = id) :
    Account id (some (.new id workflowId payload w.now)) log w'.store
      (Function.update D i (D i ++ [⟨.store (.createExecution workflowId payload), .ok row⟩])) := by
  cases h with
  | held base_eq => cases base_eq
  | idle free holds =>
      have quiet : Dialogue.Quiet [⟨.store (.createExecution workflowId payload), .ok row⟩] := ⟨rfl, rfl, rfl⟩
      refine .idle (fun j => ?_) ?_
      · by_cases own : j = i
        · subst own
          rw [Function.update_self, quiet.held?_append]
          exact free j
        · rw [Function.update_of_ne own]
          exact free j
      · rw [(MemoryStore.answer_createExecution served.answer_ok).2, fresh]
        exact holds.put_self _

omit [DecidableEq ι] in
/-- What a caller started and did not end is there, and running. -/
theorem running (h : Account id base log s D) (holds : (D i).Holds id) :
    ∃ row, s.executions.find? id = some row ∧ row.status = ExecutionStatus.running.name := by
  cases h with
  | idle free _ => exact absurd holds.held (free i)
  | held base_eq pending holder only stored =>
      cases only i holds.held
      exact ⟨_, stored.row, holds.written_running⟩

omit [DecidableEq ι] in
/-- An execution that has ended stays as it is. -/
theorem settled {creates : Bool} {env : Environment} {w w' : World MemoryStore} (h : Account id base log w.store D)
    (conduct : Conduct creates (D i) l.request) (served : Served env w w' l)
    (other : ∀ workflowId payload row, l = ⟨.store (.createExecution workflowId payload), .ok row⟩ →
      env.ids w.issued ≠ id)
    {row : ExecutionRow} {steps : List StepRow} (holds : w.store.Holds id (some row) steps)
    (started : row.status ≠ ExecutionStatus.pending.name) (ended : row.status ≠ ExecutionStatus.running.name) :
    w'.store.Holds id (some row) steps := by
  rcases l.quiet_or_writes with quiet | ⟨id', startedAt, rfl⟩ | ⟨step, rfl⟩ | ⟨id', f, rfl⟩
  · exact served.holds_quiet quiet other holds
  · obtain ⟨first, found, pending, stored⟩ := MemoryStore.answer_markRunning_true served.answer_ok
    have ne : id' ≠ id := by
      rintro rfl
      cases found.symm.trans holds.row
      exact started pending
    rw [stored]
    exact holds.put_other ne _
  · obtain ⟨opened, -⟩ := conduct
    have ne : step.executionId ≠ id := by
      rintro rfl
      obtain ⟨first, found, running⟩ := h.running opened.toHolds
      cases found.symm.trans holds.row
      exact ended running
    rw [MemoryStore.answer_insertStep_ok served.answer_ok]
    exact holds.log_other ne _
  · obtain ⟨first, found, running, stored⟩ := MemoryStore.answer_finishExecution_ok served.answer_ok
    have ne : id' ≠ id := by
      rintro rfl
      cases found.symm.trans holds.row
      exact ended running
    rw [stored]
    exact holds.put_other ne _

end Account

/-- Callers that an engine serves in one world. -/
def Executor.pool {σ ι : Type} (x : Executor) (env : Environment) (w : World σ) (demands : ι → Demand) :
    Pool σ ι (Except EngineError Reply) :=
  .start env w fun i => (x.serve (demands i)).run

theorem Executor.pool_sound {σ ι : Type} {admits : Answers} {creates : Bool} {inv : World σ → (ι → Dialogue) → Prop}
    (x : Executor) (env : Environment) {w : World σ} {demands : ι → Demand}
    (may : ∀ i, (demands i).isCreate = true → creates = true) (initially : inv w fun _ => []) :
    (x.pool env w demands).Sound (callerTerms admits creates) (fun i => (demands i).Ends admits x) inv :=
  .start (fun i => x.serve_keeps (demands i) (may i)) initially

end WorkflowEngine
