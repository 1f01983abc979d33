/-
Module: WorkflowEngine.Proofs.Consistency
Layer: Proofs
Purpose: The record of an execution and its step log tell the same story, at every point of every interleaving of
  callers that create, run and read executions, also when calls to the store fail without effect; and what has
  ended never changes again (`reachable_consistent`).
Imports: Mathlib.Data.Set.Function, Mathlib.Order.Interval.Set.Defs, WorkflowEngine.Proofs.Account,
  WorkflowEngine.Proofs.ScannedRuns
Trusted boundary: none
Main exports: Consistent, Ledger, reachable_consistent
-/
import Mathlib.Data.Set.Function
import Mathlib.Order.Interval.Set.Defs
import WorkflowEngine.Proofs.Account
import WorkflowEngine.Proofs.ScannedRuns

namespace WorkflowEngine

/-! ## The story of an execution -/

/-- The record and the step log of an execution tell the same story. -/
structure Consistent (row : ExecutionRow) (log : List StepRow) : Prop where
  known : ∃ status : ExecutionStatus, row.status = status.name
  pending : row.status = ExecutionStatus.pending.name →
    row.startedAt = none ∧ row.completedAt = none ∧ row.durationMs = none ∧ row.error = none ∧ log = []
  running : row.status = ExecutionStatus.running.name →
    row.startedAt ≠ none ∧ row.completedAt = none ∧ row.durationMs = none ∧ row.error = none ∧
      ∀ s ∈ log.dropLast, s.status ≠ StepStatus.failed.name
  completed : row.status = ExecutionStatus.completed.name →
    row.startedAt ≠ none ∧ row.completedAt ≠ none ∧ row.durationMs ≠ none ∧ row.error = none ∧ AllCompleted log
  failed : row.status = ExecutionStatus.failed.name →
    row.startedAt ≠ none ∧ row.completedAt ≠ none ∧ row.durationMs ≠ none ∧
      Xor (row.error ≠ none ∧ AllCompleted log) (row.error = none ∧ FailedLast log)

namespace Consistent

variable {row : ExecutionRow} {log : List StepRow}

private theorem of_name (status : ExecutionStatus) (named : row.status = status.name)
    (pending : status = .pending →
      row.startedAt = none ∧ row.completedAt = none ∧ row.durationMs = none ∧ row.error = none ∧ log = [])
    (running : status = .running →
      row.startedAt ≠ none ∧ row.completedAt = none ∧ row.durationMs = none ∧ row.error = none ∧
        ∀ s ∈ log.dropLast, s.status ≠ StepStatus.failed.name)
    (completed : status = .completed →
      row.startedAt ≠ none ∧ row.completedAt ≠ none ∧ row.durationMs ≠ none ∧ row.error = none ∧ AllCompleted log)
    (failed : status = .failed →
      row.startedAt ≠ none ∧ row.completedAt ≠ none ∧ row.durationMs ≠ none ∧
        Xor (row.error ≠ none ∧ AllCompleted log) (row.error = none ∧ FailedLast log)) : Consistent row log := by
  have injective {other : ExecutionStatus} (h : row.status = other.name) : status = other :=
    ExecutionStatus.name_inj.mp (named.symm.trans h)
  exact ⟨⟨status, named⟩, fun h => pending (injective h), fun h => running (injective h),
    fun h => completed (injective h), fun h => failed (injective h)⟩

end Consistent

/-- While an execution is not ended, only its last step may have failed. -/
private theorem dropLast_sound {log : List StepRow} (shape : AllCompleted log ∨ FailedLast log) :
    ∀ s ∈ log.dropLast, s.status ≠ StepStatus.failed.name := by
  have sound (steps : List StepRow) (completed : AllCompleted steps) :
      ∀ s ∈ steps, s.status ≠ StepStatus.failed.name := by
    intro s member
    rw [completed s member]
    decide
  rcases shape with completed | ⟨before, last, rfl, -, completed⟩
  · exact fun s member => sound log completed s ((List.dropLast_sublist log).subset member)
  · rw [List.dropLast_concat]
    exact sound before completed

/-- What a new execution becomes under the rule is consistent. -/
theorem Dialogue.Lawful.consistent {d : Dialogue} (lawful : d.Lawful) (started : d.start? ≠ none)
    (id workflowId : Uuid) (payload : Json) (now : Instant) :
    Consistent (d.written (.new id workflowId payload now)) d.steps := by
  obtain ⟨⟨held, startedAt⟩, start⟩ := Option.ne_none_iff_exists'.mp started
  cases finish : d.finish? with
  | none =>
      have row : d.written (.new id workflowId payload now)
          = (ExecutionRow.new id workflowId payload now).started startedAt := by
        simp only [Dialogue.written, start, finish]
      rw [row]
      exact .of_name .running rfl (by simp)
        (fun _ => ⟨Option.some_ne_none _, rfl, rfl, rfl, dropLast_sound lawful.shape⟩) (by simp) (by simp)
  | some f =>
      have row : d.written (.new id workflowId payload now)
          = ((ExecutionRow.new id workflowId payload now).started startedAt).finished f := by
        simp only [Dialogue.written, start, finish]
      rw [row]
      have written {α : Type} (a : α) : some a ≠ none := Option.some_ne_none a
      cases lawful.suits f finish with
      | completed status unset sound =>
          exact .of_name .completed status (by simp) (by simp)
            (fun _ => ⟨written _, written _, written _, unset, sound⟩) (by simp)
      | stepFailed status unset failed =>
          exact .of_name .failed status (by simp) (by simp) (by simp)
            fun _ => ⟨written _, written _, written _, .inr ⟨⟨unset, failed⟩, fun other => other.1 unset⟩⟩
      | otherwise status error sound =>
          exact .of_name .failed status (by simp) (by simp) (by simp)
            fun _ => ⟨written _, written _, written _, .inl ⟨⟨error, sound⟩, fun other => error other.1⟩⟩

/-! ## All executions -/

variable {ι : Type} [DecidableEq ι]

/-- Every execution that there is was created since some point, and is accounted for. -/
structure Ledger (env : Environment) (first : Nat) (w : World MemoryStore) (D : ι → Dialogue) : Prop where
  lawful : ∀ i, (D i).Lawful
  accounts : ∀ id, Account id none [] w.store D ∨
    ∃ n workflowId payload now, first ≤ n ∧ n < w.issued ∧ id = env.ids n ∧
      Account id (some (.new id workflowId payload now)) [] w.store D

namespace Ledger

variable {env : Environment} {first : Nat} {w w' : World MemoryStore} {D : ι → Dialogue} {i : ι} {l : Line}

omit [DecidableEq ι] in
/-- An execution that is there was created. -/
theorem created (h : Ledger env first w D) {id : Uuid} {row : ExecutionRow}
    (found : w.store.executions.find? id = some row) :
    ∃ n workflowId payload now, first ≤ n ∧ n < w.issued ∧ id = env.ids n ∧
      Account id (some (.new id workflowId payload now)) [] w.store D := by
  rcases h.accounts id with account | created
  · cases account with
    | idle free holds => cases found.symm.trans holds.row
    | held base_eq => cases base_eq
  · exact created

omit [DecidableEq ι] in
/-- An execution that is there is consistent. -/
theorem consistent (h : Ledger env first w D) {id : Uuid} {row : ExecutionRow}
    (found : w.store.executions.find? id = some row) : Consistent row (w.store.stepsOf id) := by
  obtain ⟨n, workflowId, payload, now, -, -, -, account⟩ := h.created found
  cases account with
  | idle free holds =>
      cases found.symm.trans holds.row
      rw [holds.log]
      exact .of_name .pending rfl (fun _ => ⟨rfl, rfl, rfl, rfl, rfl⟩) nofun nofun nofun
  | @held base k base_eq pending holder only holds =>
      cases base_eq
      cases found.symm.trans holds.row
      rw [holds.log]
      refine (h.lawful k).consistent (fun absent => ?_) id workflowId payload now
      simp [Dialogue.held?, absent] at holder

omit [DecidableEq ι] in
/-- The id of a new execution is not that of one that is there. -/
private theorem new_id_ne (served : Served env w w' l) (distinct : Set.InjOn env.ids (Set.Ico first w'.issued))
    (begun : first ≤ w.issued) {n : Nat} (from_ : first ≤ n) (before : n < w.issued) (workflowId : Uuid)
    (payload : Json) (row : ExecutionRow) (line : l = ⟨.store (.createExecution workflowId payload), .ok row⟩) :
    env.ids w.issued ≠ env.ids n := by
  subst line
  have next := served.issued_create
  intro same
  have again : w.issued = n := distinct ⟨begun, by omega⟩ ⟨from_, by omega⟩ same
  omega

/-- Whatever a caller that follows the rule is told, the ledger stays right, as long as ids are not handed out
twice. -/
theorem told {creates : Bool} (h : Ledger env first w D) (conduct : Conduct creates (D i) l.request)
    (served : Served env w w' l) (distinct : Set.InjOn env.ids (Set.Ico first w'.issued)) (begun : first ≤ w.issued) :
    Ledger env first w' (Function.update D i (D i ++ [l])) := by
  refine ⟨Dialogue.lawful_update h.lawful conduct, fun id => ?_⟩
  rcases h.accounts id with account | ⟨n, workflowId, payload, now, from_, before, rfl, account⟩
  · by_cases new : ∃ workflowId payload row, l = ⟨.store (.createExecution workflowId payload), .ok row⟩ ∧
        env.ids w.issued = id
    · obtain ⟨workflowId, payload, row, rfl, fresh⟩ := new
      have next := served.issued_create
      exact .inr ⟨w.issued, workflowId, payload, w.now, begun, by omega, fresh.symm, account.created served fresh⟩
    · refine .inl (account.told h.lawful conduct served fun workflowId payload row line same => new ?_)
      exact ⟨workflowId, payload, row, line, same⟩
  · have issued := served.issued_le
    exact .inr ⟨n, workflowId, payload, now, from_, by omega, rfl,
      account.told h.lawful conduct served (new_id_ne served distinct begun from_ before)⟩

omit [DecidableEq ι] in
/-- What has ended is not written to again. -/
theorem settled {creates : Bool} (h : Ledger env first w D) (conduct : Conduct creates (D i) l.request)
    (served : Served env w w' l) (distinct : Set.InjOn env.ids (Set.Ico first w'.issued)) (begun : first ≤ w.issued)
    {id : Uuid} {row : ExecutionRow} {log : List StepRow} (holds : w.store.Holds id (some row) log)
    (started : row.status ≠ ExecutionStatus.pending.name) (ended : row.status ≠ ExecutionStatus.running.name) :
    w'.store.Holds id (some row) log := by
  obtain ⟨n, workflowId, payload, now, from_, before, rfl, account⟩ := h.created holds.row
  exact account.settled conduct served (new_id_ne served distinct begun from_ before) holds started ended

end Ledger

/-! ## Interleavings -/

/-- A store has kept what had ended in an earlier one. -/
def Kept (s s' : MemoryStore) : Prop :=
  ∀ id row, s.executions.find? id = some row → row.status ≠ ExecutionStatus.pending.name →
    row.status ≠ ExecutionStatus.running.name → s'.Holds id (some row) (s.stepsOf id)

/-- The ledger is right and what had ended in a store is kept, as long as ids are not handed out twice.  The ids
since `first` are those of executions, and those since `later` were not handed out in that store. -/
def InOrder (env : Environment) (first later : Nat) (s : MemoryStore) (w : World MemoryStore) (D : ι → Dialogue) :
    Prop :=
  first ≤ later ∧ later ≤ w.issued ∧
    (Set.InjOn env.ids (Set.Ico first w.issued) → Ledger env first w D ∧ Kept s w.store)

variable {env : Environment} {first later : Nat} {s : MemoryStore}

omit [DecidableEq ι] in
/-- Before anybody has said anything, all is in order in a store without an execution. -/
theorem inOrder_initially {w : World MemoryStore} (noExecutions : w.store.executions = .empty)
    (noSteps : w.store.steps = .empty) : InOrder (ι := ι) env w.issued w.issued w.store w fun _ => [] := by
  have absent (id : Uuid) : w.store.Holds id none [] :=
    ⟨by rw [noExecutions]; rfl, by simp [MemoryStore.stepsOf, noSteps]⟩
  refine ⟨Nat.le_refl _, Nat.le_refl _, fun _ => ⟨⟨fun _ => Dialogue.lawful_nil, fun id => .inl ?_⟩, ?_⟩⟩
  · exact .idle (fun _ => by simp [Dialogue.held?, Dialogue.start?]) (absent id)
  · exact fun id row found _ _ => ⟨found, rfl⟩

omit [DecidableEq ι] in
/-- Whether all is in order depends on the store and on the ids handed out alone. -/
theorem InOrder.congr {w w' : World MemoryStore} {D : ι → Dialogue} (h : InOrder env first later s w D)
    (store : w'.store = w.store) (issued : w'.issued = w.issued) : InOrder env first later s w' D := by
  obtain ⟨begun, reached, order⟩ := h
  refine ⟨begun, by rwa [issued], fun distinct => ?_⟩
  rw [issued] at distinct
  obtain ⟨ledger, kept⟩ := order distinct
  have accounts := ledger.accounts
  rw [← store, ← issued] at accounts
  rw [← store] at kept
  exact ⟨⟨ledger.lawful, accounts⟩, kept⟩

theorem inOrder_upholds (clean : env.FailsClean) (first later : Nat) (s : MemoryStore) :
    Upholds (ι := ι) env (callerTerms .any true) (InOrder env first later s) where
  told := by
    rintro w w' D i r a ms ⟨begun, reached, order⟩ conduct answered
    have served := World.served clean answered
    have issued := served.issued_le
    refine ⟨trivial, begun, Nat.le_trans reached issued, fun distinct => ?_⟩
    have earlier : Set.Ico first w.issued ⊆ Set.Ico first w'.issued :=
      fun n h => ⟨h.1, Nat.lt_of_lt_of_le h.2 issued⟩
    obtain ⟨ledger, kept⟩ := order (distinct.mono earlier)
    have before := Nat.le_trans begun reached
    refine ⟨ledger.told conduct served distinct before, fun id row found started ended => ?_⟩
    exact ledger.settled (i := i) (l := ⟨r, a⟩) conduct served distinct before (kept id row found started ended)
      started ended
  broke h _ answered := h.congr (World.broke answered).2.1 (World.broke answered).2.2
  later _ h := h.congr rfl rfl

/-- In every state that callers can reach, whatever they want and however their turns fall, every execution tells
one story, and what has ended stays as it is. -/
theorem reachable_consistent (x : Executor) (demands : ι → Demand) {w : World MemoryStore}
    (events more : List (Event ι)) (clean : env.FailsClean) (noExecutions : w.store.executions = .empty)
    (noSteps : w.store.steps = .empty)
    (distinct : Set.InjOn env.ids (Set.Ico w.issued ((x.pool env w demands).play env (events ++ more)).world.issued))
    {id : Uuid} {row : ExecutionRow}
    (found : ((x.pool env w demands).play env events).world.store.executions.find? id = some row) :
    let reached := (x.pool env w demands).play env events
    Consistent row (reached.world.store.stepsOf id) ∧
      (row.status = ExecutionStatus.completed.name ∨ row.status = ExecutionStatus.failed.name →
        (reached.play env more).world.store.Holds id (some row) (reached.world.store.stepsOf id)) := by
  intro reached
  have sound : reached.Sound (callerTerms .any true) (fun i => (demands i).Ends .any x)
      (InOrder env w.issued w.issued w.store) :=
    (x.pool_sound env (fun _ _ => rfl) (inOrder_initially noExecutions noSteps)).play (inOrder_upholds clean _ _ _)
      events
  obtain ⟨-, issued, order⟩ := sound.inv
  have further : reached.Sound (callerTerms .any true) (fun i => (demands i).Ends .any x)
      (InOrder env w.issued reached.world.issued reached.world.store) := by
    refine ⟨sound.keeps, sound.admitted, issued, Nat.le_refl _, fun distinct => ⟨(order distinct).1, ?_⟩⟩
    exact fun id row found _ _ => ⟨found, rfl⟩
  obtain ⟨-, grown, later⟩ := (further.play (inOrder_upholds clean _ _ _) more).inv
  rw [Pool.play_append] at distinct
  have earlier : Set.Ico w.issued reached.world.issued ⊆ Set.Ico w.issued (reached.play env more).world.issued :=
    fun n h => ⟨h.1, Nat.lt_of_lt_of_le h.2 grown⟩
  have ledger := (order (distinct.mono earlier)).1
  refine ⟨ledger.consistent found, fun ended => (later distinct).2 id row found ?_ ?_⟩
  · rcases ended with status | status <;> rw [status] <;> decide
  · rcases ended with status | status <;> rw [status] <;> decide

/-- A workflow that begins and ends. -/
def shortRows : Rows where
  workflow := ⟨.nil, "short", 0⟩
  nodes := [⟨"start", .nil, "trigger", none, none, .null⟩, ⟨"stop", .nil, "end", none, none, .null⟩]
  edges := [⟨"e0", .nil, "start", "stop", none⟩]

/-- One caller creates an execution of it, and another runs it. -/
def createAndRun : Pool MemoryStore Bool (Except EngineError Reply) :=
  Executor.pool ⟨.empty, 5, 0⟩ .calm (.start (MemoryStore.empty.putWorkflow shortRows))
    fun second => if second then .run (Uuid.ofNat 0).render else .create .nil .null

/-- The same callers, where the run goes without an index. -/
def createAndScan : Pool MemoryStore Bool (Except EngineError Reply) :=
  .start .calm (.start (MemoryStore.empty.putWorkflow shortRows)) fun second =>
    if second then
      Except.map Reply.summary <$> Executor.joined (.ofNat 0) <$>
        Awaited.spawn (Executor.scanRun ⟨.empty, 5, 0⟩ (.ofNat 0)).run
    else .inline (Reply.execution <$> Executor.create .nil .null).run

theorem createAndRun_eq : createAndRun = createAndScan := by
  have named : Executor.readId (Uuid.ofNat 0).render = .ok (.ofNat 0) := by decide +kernel
  rw [createAndRun, Executor.pool, createAndScan]
  congr 1
  funext second
  cases second with
  | false => rfl
  | true =>
      simp only [if_true, Executor.serve, Executor.runNamed_of_readId named, Executor.run,
        Executor.runAttached_eq_scanRun]
      rfl

/-- The first caller is served until it has ended, and then the second. -/
def oneByOne : List (Event Bool) := List.replicate 2 (.turn false) ++ List.replicate 20 (.turn true)

theorem reachable_consistent_short :
    ∃ row, (createAndRun.play .calm oneByOne).world.store.executions.find? (.ofNat 0) = some row ∧
      row.status = "completed" ∧ ((createAndRun.play .calm oneByOne).world.store.stepsOf (.ofNat 0)).length = 2 ∧
      Consistent row ((createAndRun.play .calm oneByOne).world.store.stepsOf (.ofNat 0)) ∧
      ((createAndRun.play .calm oneByOne).play .calm [.turn true, .pass 1]).world.store.Holds (.ofNat 0) (some row)
        ((createAndRun.play .calm oneByOne).world.store.stepsOf (.ofNat 0)) := by
  let row : ExecutionRow := ⟨.ofNat 0, .nil, .null, "completed", none, some 0, some 0, some 0, 0⟩
  have found : (createAndRun.play .calm oneByOne).world.store.executions.find? (.ofNat 0) = some row := by
    rw [createAndRun_eq]
    decide +kernel
  have two : ((createAndRun.play .calm oneByOne).world.store.stepsOf (.ofNat 0)).length = 2 := by
    rw [createAndRun_eq]
    decide +kernel
  have issued : (createAndRun.play .calm (oneByOne ++ [.turn true, .pass 1])).world.issued = 3 := by
    rw [createAndRun_eq]
    decide +kernel
  have distinct : Set.InjOn Environment.calm.ids
      (Set.Ico 0 (createAndRun.play .calm (oneByOne ++ [.turn true, .pass 1])).world.issued) := by
    rw [issued]
    have apart : ∀ m < 3, ∀ n < 3, Uuid.ofNat m = Uuid.ofNat n → m = n := by decide +kernel
    rintro m ⟨-, small⟩ n ⟨-, small'⟩ same
    exact apart m small n small' same
  obtain ⟨consistent, kept⟩ := reachable_consistent ⟨.empty, 5, 0⟩ _ oneByOne [.turn true, .pass 1]
    Environment.calm_failsClean rfl rfl distinct found
  exact ⟨row, found, rfl, two, consistent, kept (.inl rfl)⟩

end WorkflowEngine
