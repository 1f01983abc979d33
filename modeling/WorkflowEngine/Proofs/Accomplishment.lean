/-
Module: WorkflowEngine.Proofs.Accomplishment
Layer: Proofs
Purpose: What the run of a pending execution leaves in the store and tells its caller when it is carried through,
  among other callers or alone.  Where no call fails, a run is turned away or carried through (`Books.carried`),
  and one that is alone is carried through (`Executor.run_accomplished`).
Imports: WorkflowEngine.Proofs.Books
Trusted boundary: none
Main exports: Accomplished, Environment.Faultless, Books.carried, Process.run_isSome, Executor.run_accomplished
-/
import WorkflowEngine.Proofs.Books

namespace WorkflowEngine

variable {env : Environment} {first : MemoryStore} {x : Executor} {base : ExecutionRow}

/-- What the run of an execution leaves in the store, and tells the caller, when it is carried through. -/
inductive Accomplished (env : Environment) (first : MemoryStore) (x : Executor) (base : ExecutionRow)
    (s : MemoryStore) : Except EngineError Summary → Prop where
  | intro {e : Execution} {clock : RunClock} {now : Instant} {visits : List Visit} {outcome : Traversal}
      {rows : List StepRow} (read : base.toExecution = .ok e)
      (concluded : Concluded (Steady env first) x e visits outcome) (logged : Logged base.id visits rows)
      (holds : s.Holds base.id
        (some ((base.started clock.startedAt).finished (clock.finish outcome.stepFailed outcome.setupError now)))
        (first.stepsOf base.id ++ rows)) :
      Accomplished env first x base s
        (.ok (outcome.summary base.id (clock.ended outcome.stepFailed outcome.setupError now)))

theorem Accomplished.eq_ok {s : MemoryStore} {r : Except EngineError Summary}
    (h : Accomplished env first x base s r) : ∃ summary, r = .ok summary := by
  cases h
  exact ⟨_, rfl⟩

namespace Books

variable {ι : Type} {s : MemoryStore} {D : ι → Dialogue} {i : ι}

/-- One caller at most holds an execution. -/
theorem held_unique (h : Books env first s D) {id : Uuid} {j : ι} (holder : (D i).held? = some id)
    (other : (D j).held? = some id) : j = i := by
  cases h.accounts id with
  | idle free => exact absurd holder (free i)
  | held _ _ _ only => rw [only i holder, only j other]

/-- Who holds an execution accounts for what the store holds of it. -/
theorem holds_of_held (h : Books env first s D) {id : Uuid} (there : first.executions.find? id = some base)
    (holder : (D i).held? = some id) :
    s.Holds id (some ((D i).written base)) (first.stepsOf id ++ (D i).steps) := by
  cases h.accounts id with
  | idle free => exact absurd holder (free i)
  | @held row k base_eq pending _ only holds =>
      cases there.symm.trans base_eq
      cases only i holder
      exact holds

/-- A run that reaches a conclusion and can write it down is carried through. -/
theorem accomplished (h : Books env first s D) (there : first.executions.find? base.id = some base) {e : Execution}
    {clock : RunClock} {body tail : Dialogue} {visits : List Visit} {outcome : Traversal} {finished : FinishedRun}
    (said : D i = opening base.id base clock ++ (body ++ tail)) (read : base.toExecution = .ok e)
    (concluded : Concluded (Steady env first) x e visits outcome) (smooth : body.Smooth)
    (logged : Logged e.id visits body.steps)
    (attempts : Attempts e.id clock outcome.stepFailed outcome.setupError finalizePauses tail (.ok finished)) :
    Accomplished env first x base s (.ok (outcome.summary e.id finished)) := by
  have id_eq := ExecutionRow.toExecution_id read
  rw [id_eq]
  rcases attempts.finish? with ⟨now, finish, same⟩ | ⟨-, f, same⟩
  · cases same
    have start : (D i).start? = some (base.id, clock.startedAt) := by
      rw [said]
      rfl
    have steps : (D i).steps = body.steps := by
      rw [said, Dialogue.steps_append, Dialogue.steps_append, attempts.steps, List.append_nil]
      rfl
    have written : (D i).written base
        = (base.started clock.startedAt).finished (clock.finish outcome.stepFailed outcome.setupError now) := by
      have finish : (D i).finish? = some (clock.finish outcome.stepFailed outcome.setupError now) := by
        rw [said, Dialogue.finish?_append, Dialogue.finish?_append, smooth.finish?, finish]
        rfl
      simp only [Dialogue.written, start, finish]
    have holds := h.holds_of_held there (i := i) (by rw [Dialogue.held?, start]; rfl)
    rw [written, steps] at holds
    rw [id_eq] at logged
    exact .intro read concluded logged holds
  · cases same

end Books

/-! ## Where no call fails -/

/-- No call to the store fails. -/
def Environment.Faultless (env : Environment) : Prop := ∀ m n, env.faults m n = none

namespace Environment.Faultless

theorem refuses (h : env.Faultless) : env.Refuses := by
  intro m n effect fault
  rw [h] at fault
  cases fault

theorem not_mayRefuse (h : env.Faultless) {m : StoreMethod} {f : StoreFault} : ¬ env.MayRefuse m f := by
  rintro ⟨n, fault⟩
  rw [h] at fault
  cases fault

end Environment.Faultless

/-- Where no call fails, every call is replied to. -/
theorem Steady.replies (faultless : env.Faultless) {call : StoreCall} {reply : StoreReply call}
    (said : Steady env first (.store call) reply) : first.Replies call reply := by
  rcases said with replies | ⟨f, -, refused⟩
  · exact replies
  · exact absurd refused faultless.not_mayRefuse

/-- Where a walk breaks off, the store refused a call. -/
theorem Steady.mayRefuse_of_walks {call : StoreCall} {f : StoreFault} (walks : call.method.walks = true)
    (fault : call.method = .getWorkflow → f ≠ .notFound) (said : Steady env first (.store call) (.error f))
    (refused : call.method = .insertStep → env.MayRefuse .insertStep f) : env.MayRefuse call.method f := by
  rcases said with reply | ⟨g, same, refusal⟩
  · cases call with
    | insertStep => exact refused rfl
    | getWorkflow id =>
        simp only [MemoryStore.Replies, MemoryStore.found] at reply
        split at reply
        · cases reply
        · cases reply
          exact absurd rfl (fault rfl)
    | listNodes | listEdges => cases reply
    | _ => cases walks
  · cases same
    exact refusal

namespace Books

variable {ι : Type} {s : MemoryStore} {D : ι → Dialogue} {i : ι}

/-- Where no call fails, the run of an execution that was pending is turned away after another caller, or it is
carried through. -/
theorem carried (faultless : env.Faultless) (h : Books env first s D)
    (there : first.executions.find? base.id = some base) (pending : base.status = ExecutionStatus.pending.name)
    (said : ∀ l ∈ D i, Steady env first l.request l.answer) {r : Except EngineError Summary}
    (fate : Fate env first x base (D i) r) :
    ((D i).Quiet ∧ (∀ l ∈ D i, l.request.Preliminary) ∧
        (∃ status : ExecutionStatus, r = .error (.alreadyStarted base.id status.name)) ∧
        ∃ j, (D j).held? = some base.id) ∨
      (D i).held? = some base.id ∧ Accomplished env first x base s r := by
  generalize spoken : D i = d at fate said
  cases fate with
  | unread refused => exact absurd refused faultless.not_mayRefuse
  | unmarked refused => exact absurd refused faultless.not_mayRefuse
  | denied quiet preliminary member denies =>
      exact .inl ⟨quiet, preliminary, ⟨_, rfl⟩, h.denied base.id base there pending i _ (spoken ▸ member) denies⟩
  | @begun e clock rest r read ends =>
      have held (rest : Dialogue) (clock : RunClock) :
          Dialogue.held? (opening base.id base clock ++ rest) = some base.id := rfl
      refine .inr ⟨held .., ?_⟩
      cases ends with
      | @concluded body tail visits outcome end_ concluded smooth logged attempts =>
          cases end_ with
          | ok finished => exact h.accomplished there spoken read concluded smooth logged attempts
          | error err =>
              obtain ⟨now, f, member⟩ := attempts.error_line
              have line := List.mem_append_right (opening base.id base clock) (List.mem_append_right body member)
              exact absurd (h.refused i _ f (spoken ▸ line) (.inr rfl)) faultless.not_mayRefuse
      | @aborted body tail call f end_ smooth sound walks fault attempts =>
          have line : (⟨.store call, .error f⟩ : Line) ∈ opening base.id base clock
              ++ (body ++ [⟨.store call, .error f⟩] ++ tail) := by simp
          refine absurd ?_ (faultless.not_mayRefuse (m := call.method) (f := f))
          apply Steady.mayRefuse_of_walks walks fault (said _ line)
          intro inserts
          rw [← inserts]
          exact h.refused i call f (spoken ▸ line) (.inl inserts)

end Books

/-- Where calls only ever fail by being refused, no process breaks down. -/
theorem Environment.Refuses.answer_ne_none {σ : Type} [Store σ] (h : env.Refuses) (r : Request) (w w' : World σ) :
    World.answer env r w ≠ (none, w') := by
  intro answered
  obtain ⟨⟨m, n, effect⟩, -⟩ := World.broke answered
  obtain ⟨f, same, -⟩ := h m n _ effect
  cases same

theorem Environment.Refuses.answered {σ : Type} [Store σ] (h : env.Refuses) (r : Request) (w : World σ) :
    ∃ a ms w', World.answer env r w = (some (a, ms), w') := by
  cases answered : World.answer env r w with
  | mk told w' =>
      cases told with
      | none => exact absurd answered (h.answer_ne_none r w w')
      | some told => exact ⟨told.1, told.2, w', rfl⟩

theorem Process.run_isSome {σ α : Type} [Store σ] (refuses : env.Refuses) (p : Process α) (w : World σ) :
    ∃ a, (p.run env w).1 = some a := by
  induction p generalizing w with
  | done a => exact ⟨a, rfl⟩
  | ask r next ih =>
      obtain ⟨b, ms, w', answered⟩ := refuses.answered r w
      simp only [Process.run, answered]
      exact ih b (w'.later ms)

/-- Where calls fail but nothing breaks down, it makes no difference who goes through a process. -/
theorem Awaited.run_unbroken {σ α : Type} [Store σ] (refuses : env.Refuses) (c : Awaited α) (w : World σ) :
    c.run env w = c.process.run env w := by
  obtain ⟨a, ended⟩ := Process.run_isSome refuses c.process w
  exact run_of_some ended

theorem Awaited.run_isSome {σ α : Type} [Store σ] (refuses : env.Refuses) (c : Awaited α) (w : World σ) :
    ∃ a, (c.run env w).1 = some a := by
  rw [run_unbroken refuses]
  exact Process.run_isSome refuses ..

/-- A caller that waits for a run is told what the run comes to, or that it broke down. -/
theorem Executor.run_eq {σ : Type} [Store σ] (env : Environment) (id : Uuid) (w : World σ) :
    (x.run id).run.run env w =
      (((x.runAttached id).run.run env w).1 <|> some (.error (.interrupted id env.breakdown)),
        ((x.runAttached id).run.run env w).2) := by
  rw [Awaited.run, run_process, run_interrupted?]

theorem Executor.runNamed_run_eq {σ : Type} [Store σ] (env : Environment) {text : String} {id : Uuid}
    (named : Executor.readId text = .ok id) (w : World σ) :
    (x.runNamed text).run.run env w =
      (((x.runAttached id).run.run env w).1 <|> some (.error (.interrupted id env.breakdown)),
        ((x.runAttached id).run.run env w).2) := by
  rw [runNamed_of_readId named, run_eq]

theorem Executor.runNamed_run_of_some {σ : Type} [Store σ] {text : String} {id : Uuid}
    (named : Executor.readId text = .ok id) {w w' : World σ} {r : Except EngineError Summary}
    (ended : (x.runAttached id).run.run env w = (some r, w')) : (x.runNamed text).run.run env w = (some r, w') := by
  rw [runNamed_run_eq env named, ended]
  rfl

theorem Executor.runNamed_run {σ : Type} [Store σ] (refuses : env.Refuses) {text : String} {id : Uuid}
    (named : Executor.readId text = .ok id) (w : World σ) :
    (x.runNamed text).run.run env w = (x.runAttached id).run.run env w := by
  rw [Awaited.run_unbroken refuses, runNamed_of_readId named, run_process]

/-- The run of a pending execution that is alone ends, and meets one of the fates. -/
theorem Executor.run_fate (x : Executor) (refuses : env.Refuses) {w : World MemoryStore}
    (there : w.store.executions.find? base.id = some base) (pending : base.status = ExecutionStatus.pending.name)
    {text : String} (named : Executor.readId text = .ok base.id) :
    let said := (x.runNamed text).run.dialogue env w
    ∃ r, ((x.runNamed text).run.run env w).1 = some r ∧
      Books env w.store ((x.runNamed text).run.run env w).2.store (fun _ : Unit => said) ∧
      (∀ l ∈ said, Steady env w.store l.request l.answer) ∧ Fate env w.store x base said r := by
  rw [Executor.runNamed_run refuses named, Awaited.dialogue, runNamed_of_readId named, run_process]
  obtain ⟨r, result⟩ := Process.run_isSome refuses (x.runAttached base.id).run w
  have keeps : (x.runAttached base.id).run.Keeps (callerTerms (Steady env w.store) false)
      (fun r d => Course (Steady env w.store) x base.id d r) [] := x.runAttached_keeps
  obtain ⟨books, ends, said⟩ := keeps.run (books_upheld refuses w.store) (Books.nothing_said w.store)
  exact ⟨r, result, books, said, (ends r result).fate refuses there pending said⟩

/-- The run of a pending execution is carried through if it is alone and no call fails. -/
theorem Executor.run_accomplished (x : Executor) (faultless : env.Faultless) {w : World MemoryStore}
    (there : w.store.executions.find? base.id = some base) (pending : base.status = ExecutionStatus.pending.name)
    {text : String} (named : Executor.readId text = .ok base.id) :
    ∃ r, ((x.runNamed text).run.run env w).1 = some r ∧
      Accomplished env w.store x base ((x.runNamed text).run.run env w).2.store r := by
  obtain ⟨r, result, books, said, fate⟩ := x.run_fate faultless.refuses there pending named
  refine ⟨r, result, ?_⟩
  rcases books.carried (i := ()) faultless there pending said fate with ⟨quiet, -, -, j, held⟩ | ⟨-, accomplished⟩
  · simp [Dialogue.held?, quiet.start?] at held
  · exact accomplished

/-! ## Records but for ids and times -/

/-- A row without what depends on the clock. -/
def ExecutionRow.timeless (row : ExecutionRow) : ExecutionRow :=
  { row with
    startedAt := row.startedAt.map fun _ => 0, completedAt := row.completedAt.map fun _ => 0,
    durationMs := row.durationMs.map fun _ => 0 }

/-- A step without its id and what depends on the clock. -/
def StepRow.timeless (row : StepRow) : StepRow := { row with id := .nil, startedAt := 0, completedAt := 0 }

/-- A summary without what depends on the clock. -/
def Summary.timeless (summary : Summary) : Summary := { summary with durationMs := 0 }

/-- Two steps that record one visit differ in their ids and times alone. -/
theorem Visit.Recorded.timeless_eq {id : Uuid} {v : Visit} {row row' : StepRow} (h : v.Recorded id row)
    (k : v.Recorded id row') : row.timeless = row'.timeless := by
  obtain ⟨_, _, _, rfl⟩ := h
  obtain ⟨_, _, _, rfl⟩ := k
  cases v.result <;> rfl

theorem Logged.timeless_eq {id : Uuid} {visits : List Visit} {rows rows' : List StepRow} (h : Logged id visits rows)
    (k : Logged id visits rows') : rows.map StepRow.timeless = rows'.map StepRow.timeless := by
  induction h generalizing rows' with
  | nil =>
      cases k
      rfl
  | cons recorded rest ih =>
      cases k with
      | cons recorded' rest' => rw [List.map_cons, List.map_cons, recorded.timeless_eq recorded', ih rest']

/-- Two stores hold the same of an execution, but for ids and times. -/
def SameRecords (id : Uuid) (s s' : MemoryStore) : Prop :=
  (s.executions.find? id).map ExecutionRow.timeless = (s'.executions.find? id).map ExecutionRow.timeless ∧
    (s.stepsOf id).map StepRow.timeless = (s'.stepsOf id).map StepRow.timeless

/-! ## A sample -/

/-- A workflow that sends a message and ends. -/
def messageRows : Rows where
  workflow := ⟨.nil, "message", 0⟩
  nodes := [⟨"start", .nil, "trigger", none, none, .null⟩,
    ⟨"tell", .nil, "action", some "send_message", none, .object [("message", .text "hello")]⟩,
    ⟨"stop", .nil, "end", none, none, .null⟩]
  edges := [⟨"e0", .nil, "start", "tell", none⟩, ⟨"e1", .nil, "tell", "stop", none⟩]

/-- A pending execution of that workflow. -/
def messageExecution : ExecutionRow := .new (.ofNat 1) .nil .null 0

/-- A store that holds both. -/
def messageStore : MemoryStore :=
  { MemoryStore.empty.putWorkflow messageRows with
    executions := Table.empty.put messageExecution.id messageExecution }

theorem messageStore_holds : messageStore.executions.find? messageExecution.id = some messageExecution :=
  Table.find?_put_self ..

theorem readId_message : Executor.readId messageExecution.id.render = .ok messageExecution.id := by
  decide +kernel

theorem Environment.calm_faultless : Environment.calm.Faultless := fun _ _ => rfl

end WorkflowEngine
