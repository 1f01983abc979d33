/-
Module: WorkflowEngine.Proofs.RefusedStarts
Layer: Proofs
Purpose: What a caller is told whose start is refused.  The state of an execution only moves forward
  (`Backend.InState.serve`), so an execution that was loaded before it was started was running at some time since.  A
  start from such a snapshot wins, or it changes nothing and tells a state that the execution was in at some time since
  it was loaded (`start_tells_past`).  It may have ended by then, which is not told (`refused_start_misreports`).
Imports: Mathlib.Logic.Relation, WorkflowEngine.Proofs.Accomplishment, WorkflowEngine.Proofs.Running,
  WorkflowEngine.Proofs.StoreLives
Trusted boundary: none
Main exports: ExecutionStatus.Next, ExecutionStatus.Leads, Holding.InState, Backend.Ready, load_reads_state,
  Backend.InState.serve, Backend.InState.was_running, StartsFrom, start_tells_past, refused_start_misreports
-/
import Mathlib.Logic.Relation
import WorkflowEngine.Proofs.Accomplishment
import WorkflowEngine.Proofs.Running
import WorkflowEngine.Proofs.StoreLives

namespace WorkflowEngine

/-! ## States and their order -/

namespace ExecutionStatus

/-- The state that an execution is in next. -/
inductive Next : ExecutionStatus → ExecutionStatus → Prop where
  | started : Next .pending .running
  | completed : Next .running .completed
  | failed : Next .running .failed

/-- A state is followed by another, sooner or later, or is the same. -/
def Leads : ExecutionStatus → ExecutionStatus → Prop := Relation.ReflTransGen Next

variable {s t : ExecutionStatus}

/-- Nothing leads back to the beginning. -/
theorem Leads.eq_pending (leads : Leads s .pending) : s = .pending := by
  rcases Relation.ReflTransGen.cases_tail leads with same | ⟨between, -, last⟩
  · exact same.symm
  · cases last

/-- An execution that is running is running, or it has ended. -/
theorem Leads.of_running (leads : Leads .running t) : t = .running ∨ t = .completed ∨ t = .failed := by
  cases t with
  | pending => exact absurd leads.eq_pending nofun
  | running => exact .inl rfl
  | completed => exact .inr (.inl rfl)
  | failed => exact .inr (.inr rfl)

/-- An execution that has ended stays as it is. -/
theorem Leads.of_ended (ended : s = .completed ∨ s = .failed) (leads : Leads s t) : t = s := by
  rcases Relation.ReflTransGen.cases_head leads with same | ⟨between, first, -⟩
  · exact same.symm
  · rcases ended with rfl | rfl <;> cases first

end ExecutionStatus

/-- The execution that is held is in a state. -/
def Holding.InState (h : Holding) (s : ExecutionStatus) : Prop := ∃ row, h.row = some row ∧ row.status = s.name

namespace Holding

variable {c : Columns} {h h' : Holding} {s t : ExecutionStatus} {id : Uuid} {l : Line} {d : Dialogue}

theorem InState.unique (is : h.InState s) (other : h.InState t) : s = t := by
  obtain ⟨row, held, state⟩ := is
  obtain ⟨row', held', state'⟩ := other
  obtain rfl : row = row' := Option.some.inj (held.symm.trans held')
  exact ExecutionStatus.name_inj.mp (state.symm.trans state')

/-- Whatever a call does to an execution, its state is the same or the next one. -/
theorem InState.moves (is : h.InState s) (moves : Moves c id h l h') :
    ∃ t, h'.InState t ∧ (t = s ∨ ExecutionStatus.Next s t) := by
  cases moves with
  | foreign | listed => exact ⟨s, is, .inl rfl⟩
  | created =>
      obtain ⟨row, held, -⟩ := is
      cases held
  | started pending startedAt =>
      have before : s = .pending := is.unique ⟨_, rfl, pending⟩
      rw [before]
      exact ⟨.running, ⟨_, rfl, rfl⟩, .inr .started⟩
  | finished running ends =>
      have before : s = .running := is.unique ⟨_, rfl, running⟩
      rw [before]
      rcases ends with completed | failed
      · exact ⟨.completed, ⟨_, rfl, completed⟩, .inr .completed⟩
      · exact ⟨.failed, ⟨_, rfl, failed⟩, .inr .failed⟩
  | recorded =>
      obtain ⟨row, held, state⟩ := is
      exact ⟨s, ⟨row, held, state⟩, .inl rfl⟩

/-- The state of an execution only moves forward. -/
theorem InState.lives (is : h.InState s) (lives : Lives c id h d h') :
    ∃ t, h'.InState t ∧ ExecutionStatus.Leads s t := by
  induction lives with
  | nil => exact ⟨s, is, .refl⟩
  | snoc before next ih =>
      obtain ⟨between, there, leads⟩ := ih
      obtain ⟨t, now, same | next⟩ := there.moves next
      · exact ⟨t, now, same ▸ leads⟩
      · exact ⟨t, now, leads.tail next⟩

end Holding

namespace Backend

variable {b : Backend} {calls : List (Stamp × StoreCall)} {id : Uuid} {s : ExecutionStatus}

/-- An execution in a store is in a state. -/
def InState (b : Backend) (id : Uuid) (s : ExecutionStatus) : Prop := (b.holdingOf id).InState s

theorem InState.serve (is : b.InState id s) (sound : b.Sound) (serves : b.Serves calls) :
    ∃ t, (b.serve calls).2.InState id t ∧ s.Leads t :=
  Holding.InState.lives is (serve_lives sound serves id)

/-- An execution that was pending and is not any more was running in between. -/
theorem InState.was_running (is : b.InState id .pending) (sound : b.Sound) (serves : b.Serves calls)
    (begun : ¬ (b.serve calls).2.InState id .pending) :
    ∃ before after, calls = before ++ after ∧ (b.serve before).2.InState id .running := by
  induction calls generalizing b with
  | nil => exact absurd is begun
  | cons c rest ih =>
      obtain ⟨t, now, same | next⟩ := Holding.InState.moves is (answer_moves sound serves.1 id)
      · rw [same] at now
        obtain ⟨before, after, split, running⟩ := ih now (answer_sound sound) serves.2 begun
        exact ⟨c :: before, after, congrArg (c :: ·) split, running⟩
      · cases next
        exact ⟨[c], rest, rfl, now⟩

end Backend

/-! ## Loading -/

/-- Where no call fails, a caller gets the answer of the store. -/
theorem World.call_answered {σ : Type} [Store σ] {env : Environment} (faultless : env.Faultless) {call : StoreCall}
    {w : World σ} {reply : StoreReply call} {store : σ}
    (answered : Store.answer ⟨env.ids w.issued, w.now⟩ call w.store = (reply, store)) :
    ∃ w', World.call env call w = (some reply, w') ∧ w'.store = store ∧ w'.now = w.now := by
  simp only [World.call, faultless call.method, reach, answered]
  exact ⟨_, rfl, rfl, rfl⟩

namespace Backend

variable {b b' : Backend} {stamp : Stamp} {id : Uuid} {row : ExecutionRow}

/-- A row that is read is the one that is held, and reading it leaves everything as it is. -/
theorem answer_getExecution (read : b.answer stamp (.getExecution id) = (.ok row, b')) :
    (b.holdingOf id).row = some row ∧ b'.content = b.content := by
  cases b with
  | memory s =>
      cases found : s.executions.find? id with
      | none => simp [answer, MemoryStore.answer, found, MemoryStore.found] at read
      | some held =>
          simp only [answer, MemoryStore.answer, found, MemoryStore.found, Prod.mk.injEq, Except.ok.injEq] at read
          obtain ⟨rfl, rfl⟩ := read
          exact ⟨found, rfl⟩
  | relational v =>
      have sent := Server.performFor_sent (.selectExecution id) Server.firstRow v
      change Server.Sent _ _ v (Server.answer stamp (.getExecution id) v) at sent
      have answered : (Server.answer stamp (.getExecution id) v).1 = .ok row := congrArg Prod.fst read
      obtain rfl : .relational (Server.answer stamp (.getExecution id) v).2 = b' := congrArg Prod.snd read
      generalize Server.answer stamp (.getExecution id) v = outcome at sent answered
      cases sent with
      | refused => cases answered
      | @executed result v' executes =>
          simp only [Tables.executeOn, Except.ok.injEq, Prod.mk.injEq] at executes
          obtain ⟨rfl, stored⟩ := executes
          refine ⟨?_, congrArg Sum.inr stored.symm⟩
          simp only [holdingOf, Tables.holdingOf]
          generalize v.tables.executions.filter _ = rows at answered
          cases rows with
          | nil => cases answered
          | cons first rest =>
              cases answered
              rfl

/-- Where all is the same that is held, the same is held of each execution. -/
theorem holdingOf_of_content (same : b'.content = b.content) : b'.holdingOf = b.holdingOf := by
  cases b with
  | memory s =>
      cases b' with
      | memory s' => exact congrArg MemoryStore.holdingOf (Sum.inl.inj same)
      | relational v' => cases same
  | relational v =>
      cases b' with
      | memory s' => cases same
      | relational v' => exact congrArg Tables.holdingOf (Sum.inr.inj same)

theorem Sound.of_content (sound : b.Sound) (same : b'.content = b.content) : b'.Sound := by
  cases b with
  | memory s =>
      cases b' with
      | memory s' => trivial
      | relational v' => cases same
  | relational v =>
      cases b' with
      | memory s' => cases same
      | relational v' =>
          have tables : v'.tables = v.tables := Sum.inr.inj same
          rw [Sound, tables]
          exact sound

end Backend

theorem Task.run_ofRecord {σ α : Type} [Store σ] {env : Environment} (r : Except String α) (w : World σ) :
    (Task.ofRecord r).run.run env w = (some (r.mapError .invalidRecord), w) := by
  cases r <;> rfl

/-- An execution that is loaded has the state that the store has it in, and loading it changes nothing. -/
theorem load_reads_state {env : Environment} (faultless : env.Faultless) {w w' : World Backend} {id : Uuid}
    {e : Execution} (loaded : (load id).run.run env w = (some (.ok e), w')) :
    w.store.InState id e.status ∧ w'.store.content = w.store.content := by
  cases outcome : Store.answer ⟨env.ids w.issued, w.now⟩ (.getExecution id) w.store with
  | mk reply b' =>
      obtain ⟨w₁, answered, stored, -⟩ := World.call_answered faultless outcome
      rw [load, Task.run_bind_of_ok (Task.run_ask answered)] at loaded
      rcases reply with f | row
      · cases f <;> cases loaded
      · obtain ⟨held, same⟩ := Backend.answer_getExecution outcome
        have reading : (Task.ofRecord row.toExecution).run.run env w₁ = (some (.ok e), w') := loaded
        rw [Task.run_ofRecord, Prod.mk.injEq] at reading
        obtain ⟨read, rfl⟩ := reading
        cases means : row.toExecution with
        | error reason =>
            rw [means] at read
            cases read
        | ok e' =>
            rw [means] at read
            cases read
            rw [stored]
            exact ⟨⟨row, held, ExecutionRow.toExecution_status means⟩, same⟩

/-! ## Starting -/

/-- What is selected by an id and a state is the row that is held, if it is in the state. -/
theorem Tables.Sound.countP_held {t : Tables} (sound : t.Sound) {id : Uuid} {row : ExecutionRow}
    (held : (t.holdingOf id).row = some row) (status : String) :
    t.executions.countP (fun row => row.id = id ∧ row.status = status) = if row.status = status then 1 else 0 := by
  obtain ⟨rest, rows⟩ := List.head?_eq_some_iff.mp held
  have single := length_filter_key_le_one sound.executionKey id
  rw [rows, List.length_cons] at single
  obtain rfl : rest = [] := List.length_eq_zero_iff.mp (by omega)
  change (t.updateExecutions (fun row => row.id = id ∧ row.status = status) fun row => row).1 = _
  rw [updateExecutions_count, rows, List.countP_singleton]
  simp

namespace Backend

/-- Nothing is refused without reason. -/
def Ready : Backend → Prop
  | .memory _ => True
  | .relational v => v.Ready

variable {b : Backend} {stamp : Stamp} {id : Uuid} {s : ExecutionStatus} {startedAt : Instant}

/-- An execution of which there is a row is started just if it is pending. -/
theorem answer_markRunning (sound : b.Sound) (ready : b.Ready) (is : b.InState id s) :
    (b.answer stamp (.markRunning id startedAt)).1 = .ok (decide (s = .pending)) := by
  obtain ⟨row, held, state⟩ := is
  have pending_iff : row.status = "pending" ↔ s = .pending := by
    rw [state]
    exact ExecutionStatus.name_inj (b := .pending)
  cases b with
  | memory store =>
      have held : store.executions.find? id = some row := held
      by_cases pending : s = .pending
      · simp only [answer, MemoryStore.answer, held, pending_iff.mpr pending, if_true, pending, decide_true]
      · simp only [answer, MemoryStore.answer, held, mt pending_iff.mp pending, if_false, pending, decide_false]
  | relational v =>
      have executes : v.tables.executeOn v.columns (.startExecution id startedAt) = .ok (_, _) := rfl
      obtain ⟨v', performed, -⟩ := Server.performFor_calm (fun n => ready.calm _ n)
        (ready.existing .executions (by decide)) (fun n => .ok (n == 1)) executes rfl Columns.takes_nil
      have answered : Server.answer stamp (.markRunning id startedAt) v = _ := performed
      have count := Tables.Sound.countP_held sound held "pending"
      simp only [answer, answered]
      rw [count]
      by_cases pending : s = .pending
      · rw [if_pos (pending_iff.mpr pending), pending]
        rfl
      · rw [if_neg (mt pending_iff.mp pending), decide_eq_false pending]
        rfl

/-- A start that the store accepts moves the row. -/
theorem answer_markRunning_moves (sound : b.Sound)
    (accepted : (b.answer stamp (.markRunning id startedAt)).1 = .ok true) :
    ∃ row, (b.holdingOf id).row = some row ∧ (b.answer stamp (.markRunning id startedAt)).2.holdingOf id =
      ⟨some (row.started startedAt), (b.holdingOf id).log⟩ := by
  have proper : (StoreCall.markRunning id startedAt).Proper stamp b.holdingOf := trivial
  have moves := answer_moves sound proper id
  rw [accepted] at moves
  generalize b.holdingOf id = before at moves
  generalize (b.answer stamp (.markRunning id startedAt)).2.holdingOf id = after at moves
  cases moves with
  | foreign foreign => simpa [Line.started?] using foreign.started
  | started => exact ⟨_, rfl, rfl⟩

end Backend

/-- What a caller is told whose start is refused: of an execution that was loaded as pending that it is running, and of
others the state in which they were loaded. -/
def Execution.refusal (e : Execution) : ExecutionStatus := if e.status = .pending then .running else e.status

/-- An execution that is not pending any more is in the state that is told, or running is told and it has ended. -/
theorem Execution.refusal_of_leads (e : Execution) {current : ExecutionStatus} (leads : e.status.Leads current)
    (begun : current ≠ .pending) :
    current = e.refusal ∨ e.refusal = .running ∧ (current = .completed ∨ current = .failed) := by
  unfold refusal
  cases was : e.status with
  | pending =>
      cases current with
      | pending => exact absurd rfl begun
      | running => exact .inl rfl
      | completed => exact .inr ⟨rfl, .inl rfl⟩
      | failed => exact .inr ⟨rfl, .inr rfl⟩
  | running =>
      rw [was] at leads
      rcases leads.of_running with running | ended
      · exact .inl running
      · exact .inr ⟨rfl, ended⟩
  | completed => exact .inl (leads.of_ended (.inl was) |>.trans was)
  | failed => exact .inl (leads.of_ended (.inr was) |>.trans was)

theorem Backend.InState.refusal {b : Backend} {id : Uuid} {e : Execution} {current : ExecutionStatus}
    (now : b.InState id current) (leads : e.status.Leads current) (begun : current ≠ .pending) :
    b.InState id e.refusal ∨ e.refusal = .running ∧ (b.InState id .completed ∨ b.InState id .failed) := by
  rcases e.refusal_of_leads leads begun with same | ⟨running, rfl | rfl⟩
  · exact .inl (same ▸ now)
  · exact .inr ⟨running, .inl now⟩
  · exact .inr ⟨running, .inr now⟩

/-- A start of what was loaded as pending ends as the store answers. -/
theorem start_answered {σ : Type} [Store σ] {env : Environment} (faultless : env.Faultless) {w : World σ}
    {e : Execution} (fresh : e.status = .pending) {won : Bool} {store : σ}
    (answered : Store.answer ⟨env.ids w.issued, w.now⟩ (.markRunning e.id w.now) w.store = (.ok won, store)) :
    ∃ w', (start e).run.run env w =
        (some (if won then .ok ⟨w.now, w.now⟩ else .error (.alreadyStarted e.id e.refusal.name)), w') ∧
      w'.store = store := by
  obtain ⟨w', called, stored, now⟩ := World.call_answered faultless answered
  refine ⟨w', ?_, stored⟩
  have marked : (Task.call (.markRunning e.id w.now)).run.run env w = (some (.ok won), w') := Task.run_call called
  rw [start, if_neg (not_not_intro fresh)]
  change ((Task.call (.markRunning e.id w.now)) >>= _ : Task RunClock).run.run env w = _
  rw [Task.run_bind_of_ok marked, Execution.refusal, if_pos fresh, ← now]
  cases won <;> rfl

/-! ## Starts from snapshots -/

/-- A start that won: the execution was pending, and its record says now since when it runs, and nothing else. -/
structure StartWon (id : Uuid) (before after : Backend) (clock : RunClock) : Prop where
  pending : before.InState id .pending
  moved : ∃ row, (before.holdingOf id).row = some row ∧
    after.holdingOf id = ⟨some (row.started clock.startedAt), (before.holdingOf id).log⟩

/-- A start that was refused, of an execution that was loaded before some calls: nothing has changed, and the state
that is told is one that the execution was in at some time since it was loaded.  It is the state that the execution is in
now, unless it is said to be running and has ended. -/
structure StartRefused (id : Uuid) (loaded : Backend) (calls : List (Stamp × StoreCall)) (before after : Backend)
    (told : ExecutionStatus) : Prop where
  begun : ¬ before.InState id .pending
  unchanged : after.content = before.content
  past : ∃ sooner later, calls = sooner ++ later ∧ (loaded.serve sooner).2.InState id told
  now : before.InState id told ∨
    told = .running ∧ (before.InState id .completed ∨ before.InState id .failed)

/-- However many calls were made since an execution was loaded, a start of what was loaded wins, if the execution is still
pending, or it is refused, and the state that is told was that of the execution at some time since. -/
theorem start_tells_past {env : Environment} (faultless : env.Faultless) {w₀ w₁ w : World Backend} {e : Execution}
    {calls : List (Stamp × StoreCall)} (sound : w₀.store.Sound)
    (loaded : (load e.id).run.run env w₀ = (some (.ok e), w₁)) (serves : w₁.store.Serves calls)
    (reached : w.store = (w₁.store.serve calls).2) (ready : w.store.Ready) :
    (∃ clock w', (start e).run.run env w = (some (.ok clock), w') ∧ e.status = .pending ∧
        StartWon e.id w.store w'.store clock) ∨
      ∃ w', (start e).run.run env w = (some (.error (.alreadyStarted e.id e.refusal.name)), w') ∧
        StartRefused e.id w₁.store calls w.store w'.store e.refusal := by
  obtain ⟨was, same⟩ := load_reads_state faultless loaded
  have sound₁ : w₁.store.Sound := sound.of_content same
  have was : w₁.store.InState e.id e.status := by
    rw [Backend.InState, Backend.holdingOf_of_content same]
    exact was
  have sound : w.store.Sound := reached ▸ Backend.serve_sound sound₁
  obtain ⟨current, now, leads⟩ := was.serve sound₁ serves
  rw [← reached] at now
  by_cases fresh : e.status = .pending
  · have answer : (w.store.answer ⟨env.ids w.issued, w.now⟩ (.markRunning e.id w.now)).1 = _ :=
      Backend.answer_markRunning sound ready now
    obtain ⟨w', started, stored⟩ := start_answered faultless fresh (Prod.ext answer rfl)
    by_cases pending : current = .pending
    · subst pending
      left
      obtain ⟨row, held, moved⟩ := Backend.answer_markRunning_moves sound answer
      exact ⟨_, w', started, fresh, now, row, held, stored ▸ moved⟩
    · right
      rw [decide_eq_false pending] at answer started
      rw [fresh] at was
      have begun : ¬ w.store.InState e.id .pending := fun still => pending (now.unique still)
      have told : e.refusal = .running := if_pos fresh
      refine ⟨w', started, begun, ?_, ?_, ?_⟩
      · rw [stored]
        apply (Backend.refusesCleanly sound).starts
        rw [answer]
        nofun
      · rw [reached] at begun
        rw [told]
        exact was.was_running sound₁ serves begun
      · exact now.refusal leads pending
  · right
    have told : e.refusal = e.status := if_neg fresh
    have refused : (start e).run.run env w = (some (.error (.alreadyStarted e.id e.refusal.name)), w) := by
      rw [start, if_pos fresh, told]
      rfl
    have pending : current ≠ .pending := by
      rintro rfl
      exact fresh leads.eq_pending
    exact ⟨w, refused, fun still => pending (now.unique still), rfl, ⟨[], calls, rfl, told ▸ was⟩,
      now.refusal leads pending⟩

/-- The execution of the sample store, as it is before it is started. -/
def pendingExecution : Execution := ⟨messageExecution.id, .nil, .null, .pending, none, none, none, none, 0⟩

/-- The sample store after the execution was loaded from it. -/
def worldOfPending : World Backend :=
  ((load pendingExecution.id).run.run .calm (.start (.memory messageStore))).2

/-- The world after some calls that others made. -/
def World.after (w : World Backend) (calls : List (Stamp × StoreCall)) : World Backend :=
  { w with store := (w.store.serve calls).2 }

/-- Others start the execution and end it. -/
def overtakingCalls : List (Stamp × StoreCall) :=
  let stamp : Stamp := ⟨.nil, 0⟩
  [(stamp, .markRunning pendingExecution.id 5),
    (stamp, .finishExecution pendingExecution.id ⟨"completed", none, 7, 2⟩)]

theorem overtakingCalls_served : worldOfPending.store.Serves overtakingCalls := ⟨trivial, .inl rfl, trivial⟩

theorem overtaken_completed : (worldOfPending.after overtakingCalls).store.InState pendingExecution.id .completed :=
  ⟨_, rfl, rfl⟩

theorem start_tells_past_overtaken :
    ∃ w', (start pendingExecution).run.run .calm (worldOfPending.after overtakingCalls) =
        (some (.error (.alreadyStarted pendingExecution.id "running")), w') ∧
      StartRefused pendingExecution.id worldOfPending.store overtakingCalls
        (worldOfPending.after overtakingCalls).store w'.store .running := by
  have loaded : (load pendingExecution.id).run.run .calm (.start (.memory messageStore)) =
      (some (.ok pendingExecution), worldOfPending) := rfl
  have sound : (World.start (Backend.memory messageStore)).store.Sound := trivial
  have ready : (worldOfPending.after overtakingCalls).store.Ready := trivial
  rcases start_tells_past Environment.calm_faultless sound loaded overtakingCalls_served rfl ready with
    ⟨clock, w', -, -, won⟩ | refused
  · cases won.pending.unique overtaken_completed
  · exact refused

/-- A caller whose start is refused can be told that an execution is running that has been completed. -/
theorem refused_start_misreports :
    ¬ ∀ calls told w', worldOfPending.store.Serves calls →
      (start pendingExecution).run.run .calm (worldOfPending.after calls) =
        (some (.error (.alreadyStarted pendingExecution.id told)), w') →
      ∃ current, (worldOfPending.after calls).store.InState pendingExecution.id current ∧ told = current.name := by
  intro truthful
  obtain ⟨current, now, told⟩ := truthful overtakingCalls "running" _ overtakingCalls_served rfl
  rw [now.unique overtaken_completed] at told
  exact absurd told (by decide)

end WorkflowEngine
