/-
Module: WorkflowEngine.Proofs.Books
Layer: Proofs
Purpose: What callers can be told about executions that exist already.  Calls may fail, but a call that fails has
  no effect and is not mistaken for a missing row.  Then replies follow the store as it was at first, a write of a
  caller that started an execution is served or refused, and a caller is turned away only where another one came
  first (`books_upheld`).  So a run is turned away, refused, or carried through (`Course.fate`).
Imports: WorkflowEngine.Proofs.Account
Trusted boundary: none
Main exports: Environment.Refuses, Steady, Books, books_upheld, Fate, Course.fate
-/
import WorkflowEngine.Proofs.Account

namespace WorkflowEngine

/-! ## Replies -/

/-- Calls may fail, but then they have no effect, and their failure is not that there is no such row. -/
def Environment.Refuses (env : Environment) : Prop :=
  ∀ m n effect, env.faults m n = some effect → ∃ f, effect = .refuse f ∧ f ≠ .notFound

theorem Environment.Refuses.failsClean {env : Environment} (h : env.Refuses) : env.FailsClean := by
  intro m n f effect
  obtain ⟨g, same, -⟩ := h m n _ effect
  cases same

/-- A call of some kind is refused for some reason, if it comes at the right time. -/
def Environment.MayRefuse (env : Environment) (m : StoreMethod) (f : StoreFault) : Prop :=
  ∃ n, env.faults m n = some (.refuse f)

/-- How a store replies that was once as given.  Workflows stay as they are, and an execution that was there stays
there. -/
def MemoryStore.Replies (s : MemoryStore) : (call : StoreCall) → StoreReply call → Prop
  | .getWorkflow id, reply => reply = found (s.workflows.find? id)
  | .listNodes id, reply => reply = .ok ((s.nodes.find? id).getD [])
  | .listEdges id, reply => reply = .ok ((s.edges.find? id).getD [])
  | .getExecution id, reply =>
      ∀ base, s.executions.find? id = some base → base.status = ExecutionStatus.pending.name →
        ∃ row, reply = .ok row ∧ row.id = base.id ∧ (∃ status : ExecutionStatus, row.status = status.name) ∧
          (row.status = ExecutionStatus.pending.name → row = base)
  | .markRunning id _, reply =>
      ∀ base, s.executions.find? id = some base → base.status = ExecutionStatus.pending.name → ∃ won, reply = .ok won
  | _, _ => True

/-- What may be said where the store was once as given. -/
def Steady (env : Environment) (s : MemoryStore) : Answers
  | .store call, reply => s.Replies call reply ∨ ∃ f, reply = .error f ∧ env.MayRefuse call.method f
  | .exchange request timeoutMs, a => ∃ before, a = (World.waitFor timeoutMs (env.transport before request)).1
  | .deliver mail, a => ∃ before, a = env.mailer before mail
  | _, _ => True

/-- A line turns a caller away from an execution: it is not pending, or it was started by another. -/
def Line.Denies (id : Uuid) : Line → Prop
  | ⟨.store (.getExecution key), .ok row⟩ => key = id ∧ row.status ≠ ExecutionStatus.pending.name
  | ⟨.store (.markRunning key _), .ok false⟩ => key = id
  | _ => False

/-! ## Books -/

/-- A store, and what callers have said since it was as given. -/
structure Books {ι : Type} (env : Environment) (first s : MemoryStore) (D : ι → Dialogue) : Prop where
  lawful : ∀ i, (D i).Lawful
  accounts : ∀ id, Account id (first.executions.find? id) (first.stepsOf id) s D
  workflows : s.workflows = first.workflows ∧ s.nodes = first.nodes ∧ s.edges = first.edges
  /-- A write to an execution that the caller started fails only if it is refused. -/
  refused : ∀ i call f, (⟨.store call, .error f⟩ : Line) ∈ D i →
    call.method = .insertStep ∨ call.method = .finishExecution → env.MayRefuse call.method f
  /-- Who is turned away from an execution that was pending came too late. -/
  denied : ∀ id base, first.executions.find? id = some base → base.status = ExecutionStatus.pending.name →
    ∀ i, ∀ l ∈ D i, l.Denies id → ∃ j, (D j).held? = some id

namespace Books

variable {ι : Type} [DecidableEq ι] {env : Environment} {first : MemoryStore} {w w' : World MemoryStore}
  {D : ι → Dialogue} {i : ι} {l : Line}

omit [DecidableEq ι] in
theorem nothing_said (s : MemoryStore) : Books (ι := ι) env s s fun _ => [] where
  lawful _ := Dialogue.lawful_nil
  accounts id := .idle (fun _ => by simp [Dialogue.held?, Dialogue.start?]) ⟨rfl, rfl⟩
  workflows := ⟨rfl, rfl, rfl⟩
  refused i call f member := by cases member
  denied id base found pending i l member := by cases member

omit [DecidableEq ι] in
/-- An execution that was pending is there, as it was or under way. -/
theorem found (h : Books env first w.store D) {id : Uuid} {base : ExecutionRow}
    (there : first.executions.find? id = some base) (pending : base.status = ExecutionStatus.pending.name) :
    ∃ row, w.store.executions.find? id = some row ∧ row.id = base.id ∧
      (∃ status : ExecutionStatus, row.status = status.name) ∧
      (row.status = ExecutionStatus.pending.name ∧ row = base ∨
        row.status ≠ ExecutionStatus.pending.name ∧ ∃ j, (D j).held? = some id) := by
  cases h.accounts id with
  | idle free holds => exact ⟨base, holds.row.trans there, rfl, ⟨.pending, pending⟩, .inl ⟨pending, rfl⟩⟩
  | @held row k base_eq _ holder only holds =>
      cases there.symm.trans base_eq
      have started : (D k).start? ≠ none := by
        intro absent
        simp [Dialogue.held?, absent] at holder
      exact ⟨_, holds.row, Dialogue.written_id .., (h.lawful k).written_known started,
        .inr ⟨(h.lawful k).written_not_pending started, k, holder⟩⟩

variable {stamp : Stamp} {s : MemoryStore} {call : StoreCall} {reply : StoreReply call}

omit [DecidableEq ι] in
/-- The store replies as it may. -/
private theorem replies (h : Books env first w.store D)
    (answered : MemoryStore.answer stamp call w.store = (reply, s)) : first.Replies call reply := by
  have told : reply = (MemoryStore.answer stamp call w.store).1 := (congrArg Prod.fst answered).symm
  obtain ⟨workflows, nodes, edges⟩ := h.workflows
  cases call with
  | getWorkflow id =>
      simp only [MemoryStore.Replies, ← workflows]
      exact told
  | listNodes id =>
      simp only [MemoryStore.Replies, ← nodes]
      exact told
  | listEdges id =>
      simp only [MemoryStore.Replies, ← edges]
      exact told
  | getExecution key =>
      intro base there pending
      obtain ⟨row, found, id_eq, known, state⟩ := h.found there pending
      refine ⟨row, told.trans ?_, id_eq, known, fun again => ?_⟩
      · simp only [MemoryStore.answer, found, MemoryStore.found]
      · rcases state with ⟨-, same⟩ | ⟨late, -⟩
        · exact same
        · exact absurd again late
  | markRunning key startedAt =>
      intro base there pending
      obtain ⟨row, found, -⟩ := h.found there pending
      exact ⟨_, told.trans (MemoryStore.answer_markRunning_found found)⟩
  | createExecution | finishExecution | insertStep | listSteps => trivial

omit [DecidableEq ι] in
/-- The store turns a caller away only where another one came first. -/
private theorem denies (h : Books env first w.store D) (answered : MemoryStore.answer stamp call w.store = (reply, s))
    {id : Uuid} {base : ExecutionRow} (there : first.executions.find? id = some base)
    (pending : base.status = ExecutionStatus.pending.name) (denies : Line.Denies id ⟨.store call, reply⟩) :
    ∃ j, (D j).held? = some id := by
  have told : reply = (MemoryStore.answer stamp call w.store).1 := (congrArg Prod.fst answered).symm
  obtain ⟨row, found, -, -, state⟩ := h.found there pending
  have late (notPending : row.status ≠ ExecutionStatus.pending.name) : ∃ j, (D j).held? = some id := by
    rcases state with ⟨again, -⟩ | ⟨-, held⟩
    · exact absurd again notPending
    · exact held
  cases call with
  | getExecution key =>
      cases reply with
      | error => exact denies.elim
      | ok seen =>
          obtain ⟨rfl, notPending⟩ := denies
          simp only [MemoryStore.answer, found, MemoryStore.found, Except.ok.injEq] at told
          subst told
          exact late notPending
  | markRunning key startedAt =>
      cases reply with
      | error => exact denies.elim
      | ok won =>
          cases won with
          | true => exact denies.elim
          | false =>
              cases denies
              rw [MemoryStore.answer_markRunning_found found, Except.ok.injEq] at told
              exact late (of_decide_eq_false told.symm)
  | _ => exact denies.elim

omit [DecidableEq ι] in
private theorem steady (refuses : env.Refuses) (h : Books env first w.store D) {r : Request} {a : r.Answer} {ms : Nat}
    (answered : World.answer env r w = (some (a, ms), w')) : Steady env first r a := by
  cases r with
  | store call =>
      cases World.served refuses.failsClean answered with
      | aside aside => cases aside
      | refused effect => exact .inr ⟨_, rfl, _, effect⟩
      | lost effect =>
          obtain ⟨f, same, -⟩ := refuses _ _ _ effect
          cases same
      | reached answered => exact .inl (h.replies answered)
  | exchange request timeoutMs =>
      simp only [World.answer, Prod.mk.injEq, Option.some.injEq] at answered
      exact ⟨w.requests, (congrArg Prod.fst answered.1).symm⟩
  | deliver mail =>
      simp only [World.answer] at answered
      refine ⟨w.mails, ?_⟩
      split at answered <;>
      · rename_i outcome
        simp only [Prod.mk.injEq, Option.some.injEq] at answered
        rw [outcome, ← answered.1.1]
  | clock | freshId | sleep | note => trivial

omit [DecidableEq ι] in
/-- A caller that holds an execution finds it when it writes to it. -/
private theorem refused_of_error (h : Books env first w.store D) {f : StoreFault}
    (conduct : Conduct false (D i) (.store call)) (served : Served env w w' ⟨.store call, .error f⟩)
    (writes : call.method = .insertStep ∨ call.method = .finishExecution) : env.MayRefuse call.method f := by
  cases served with
  | aside aside => cases aside
  | refused effect => exact ⟨_, effect⟩
  | reached answered =>
      have told := congrArg Prod.fst answered
      cases call with
      | insertStep step =>
          obtain ⟨opened, -⟩ := conduct
          obtain ⟨row, found, -⟩ := (h.accounts step.executionId).running opened.toHolds
          cases told.symm.trans (MemoryStore.answer_insertStep_found found)
      | finishExecution id finish =>
          obtain ⟨holds, -⟩ := conduct
          obtain ⟨row, found, running⟩ := (h.accounts id).running holds
          cases told.symm.trans (MemoryStore.answer_finishExecution_running found running)
      | _ => simp [StoreCall.method] at writes

omit [DecidableEq ι] in
private theorem late (refuses : env.Refuses) (h : Books env first w.store D) (served : Served env w w' l) {id : Uuid}
    {base : ExecutionRow} (there : first.executions.find? id = some base)
    (pending : base.status = ExecutionStatus.pending.name) (turned : l.Denies id) : ∃ j, (D j).held? = some id := by
  cases served with
  | @aside r a aside =>
      cases r with
      | store => cases aside
      | _ => exact turned.elim
  | @refused call f => cases call <;> exact turned.elim
  | lost effect =>
      obtain ⟨f, same, -⟩ := refuses _ _ _ effect
      cases same
  | reached answered => exact h.denies answered there pending turned

/-- Whatever a caller that follows the rule is told, it may be said, and the books stay right. -/
theorem told (refuses : env.Refuses) (h : Books env first w.store D) {r : Request} {a : r.Answer} {ms : Nat}
    (conduct : Conduct false (D i) r) (answered : World.answer env r w = (some (a, ms), w')) :
    Steady env first r a ∧ Books env first w'.store (Function.update D i (D i ++ [⟨r, a⟩])) := by
  have served := World.served refuses.failsClean answered
  refine ⟨h.steady refuses answered, ?_⟩
  refine ⟨Dialogue.lawful_update h.lawful conduct, fun id => ?_, ?_, fun j call f member writes => ?_,
    fun id base there pending j l member turned => ?_⟩
  · apply (h.accounts id).told h.lawful (l := ⟨r, a⟩) conduct served
    rintro workflowId payload row ⟨⟩
    cases conduct
  · obtain ⟨workflows, nodes, edges⟩ := h.workflows
    obtain ⟨workflows', nodes', edges'⟩ := served.workflows
    exact ⟨workflows'.trans workflows, nodes'.trans nodes, edges'.trans edges⟩
  · by_cases own : j = i
    · subst own
      rw [Function.update_self] at member
      rcases List.mem_append.mp member with old | new
      · exact h.refused j call f old writes
      · cases List.mem_singleton.mp new
        exact h.refused_of_error conduct served writes
    · rw [Function.update_of_ne own] at member
      exact h.refused j call f member writes
  · have before : ∃ k, (D k).held? = some id := by
      by_cases own : j = i
      · subst own
        rw [Function.update_self] at member
        rcases List.mem_append.mp member with old | new
        · exact h.denied id base there pending j l old turned
        · cases List.mem_singleton.mp new
          exact h.late refuses served there pending turned
      · rw [Function.update_of_ne own] at member
        exact h.denied id base there pending j l member turned
    obtain ⟨k, holder⟩ := before
    exact ⟨k, Dialogue.held?_update holder ..⟩

end Books

/-- The books are right at any point of any interleaving. -/
theorem books_upheld {ι : Type} [DecidableEq ι] {env : Environment} (refuses : env.Refuses) (first : MemoryStore) :
    Upholds (ι := ι) env (callerTerms (Steady env first) false) fun w D => Books env first w.store D where
  told h conduct answered := h.told refuses conduct answered
  broke h _ answered := by
    rw [(World.broke answered).2.1]
    exact h
  later _ h := h

/-! ## The fate of a run -/

/-- What becomes of the run of an execution that was pending: it is refused before it starts, it is turned away, or
it is carried through. -/
inductive Fate (env : Environment) (first : MemoryStore) (x : Executor) (base : ExecutionRow) :
    Dialogue → Except EngineError Summary → Prop where
  | unread {f : StoreFault} (refused : env.MayRefuse .getExecution f) :
      Fate env first x base [⟨.store (.getExecution base.id), .error f⟩] (.error (.store f))
  | unmarked {startedAt : Instant} {f : StoreFault} (refused : env.MayRefuse .markRunning f) :
      Fate env first x base
        [⟨.store (.getExecution base.id), .ok base⟩, ⟨.clock, startedAt⟩,
          ⟨.store (.markRunning base.id startedAt), .error f⟩] (.error (.store f))
  | denied {d : Dialogue} {l : Line} {status : ExecutionStatus} (quiet : d.Quiet)
      (preliminary : ∀ l ∈ d, l.request.Preliminary) (member : l ∈ d) (denies : l.Denies base.id) :
      Fate env first x base d (.error (.alreadyStarted base.id status.name))
  | begun {e : Execution} {clock : RunClock} {rest : Dialogue} {r : Except EngineError Summary}
      (read : base.toExecution = .ok e) (ends : RunEnds (Steady env first) x e clock rest r) :
      Fate env first x base (opening base.id base clock ++ rest) r

/-- The course of a run that is told what may be said of a pending execution. -/
theorem Course.fate {env : Environment} (refuses : env.Refuses) {first : MemoryStore} {x : Executor}
    {base : ExecutionRow} (there : first.executions.find? base.id = some base)
    (pending : base.status = ExecutionStatus.pending.name) {d : Dialogue} {r : Except EngineError Summary}
    (h : Course (Steady env first) x base.id d r) (said : ∀ l ∈ d, Steady env first l.request l.answer) :
    Fate env first x base d r := by
  have loaded {row : ExecutionRow} (seen : Steady env first (.store (.getExecution base.id)) (.ok row)) :
      row.id = base.id ∧ (∃ status : ExecutionStatus, row.status = status.name) ∧
        (row.status = ExecutionStatus.pending.name → row = base) := by
    rcases seen with reply | ⟨f, same, -⟩
    · obtain ⟨row, same, known⟩ := reply base there pending
      cases same
      exact known
    · cases same
  have again {row : ExecutionRow} {e : Execution} (seen : Steady env first (.store (.getExecution base.id)) (.ok row))
      (read : row.toExecution = .ok e) (status : e.status = .pending) : row = base :=
    (loaded seen).2.2 (by rw [ExecutionRow.toExecution_status read, status])
  cases h with
  | absent =>
      rcases said _ (List.mem_singleton_self _) with reply | ⟨f, same, n, effect⟩
      · obtain ⟨row, same, -⟩ := reply base there pending
        cases same
      · cases same
        obtain ⟨g, same, fault⟩ := refuses _ _ _ effect
        cases same
        exact absurd rfl fault
  | unread fault =>
      rcases said _ (List.mem_singleton_self _) with reply | ⟨f, same, refused⟩
      · obtain ⟨row, same, -⟩ := reply base there pending
        cases same
      · cases same
        exact .unread refused
  | unreadable read =>
      obtain ⟨-, ⟨status, known⟩, -⟩ := loaded (said _ (List.mem_singleton_self _))
      simp [ExecutionRow.toExecution, known, Except.map] at read
  | @late row e read status =>
      obtain ⟨id_eq, -, -⟩ := loaded (said _ (List.mem_singleton_self _))
      have notPending : row.status ≠ ExecutionStatus.pending.name := by
        rw [ExecutionRow.toExecution_status read]
        cases state : e.status with
        | pending => exact absurd state status
        | running | completed | failed => decide
      rw [id_eq]
      exact .denied ⟨rfl, rfl, rfl⟩ (by simp [Request.Preliminary]) (List.mem_singleton_self _) ⟨rfl, notPending⟩
  | unmarked read status =>
      cases again (said _ List.mem_cons_self) read status
      have asked := said _ (List.mem_cons_of_mem _ (List.mem_cons_of_mem _ (List.mem_singleton_self _)))
      rcases asked with reply | ⟨f, same, refused⟩
      · obtain ⟨won, same⟩ := reply base there pending
        cases same
      · cases same
        exact .unmarked refused
  | lost read status =>
      cases again (said _ List.mem_cons_self) read status
      exact .denied ⟨rfl, rfl, rfl⟩ (by simp [Request.Preliminary])
        (List.mem_cons_of_mem _ (List.mem_cons_of_mem _ (List.mem_singleton_self _))) rfl
  | begun read status ends =>
      cases again (said _ (List.mem_append_left _ List.mem_cons_self)) read status
      exact .begun read ends

end WorkflowEngine
