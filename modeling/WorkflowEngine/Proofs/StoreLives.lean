/-
Module: WorkflowEngine.Proofs.StoreLives
Layer: Proofs
Purpose: Stores of either kind under any calls.  Whatever a call does to an execution is a move, also where a server
  refuses statements without reason, and whatever its columns make of values (`MemoryStore.answer_moves`,
  `Server.answer_moves`).  So any calls by any callers give every execution a life that what was told accounts for: one
  start, one end after it, fields that are written with these and never again, and a log that only grows
  (`lifecycle_enforced`).
Imports: WorkflowEngine.Proofs.Lives, WorkflowEngine.Proofs.Reachability, WorkflowEngine.Proofs.Saving,
  WorkflowEngine.Proofs.StoreAgreement, WorkflowEngine.Store.Backend
Trusted boundary: none
Main exports: Tables.Sound, MemoryStore.answer_moves, Server.answer_moves, Backend.serve, Lifecycle, lifecycle_enforced
-/
import WorkflowEngine.Proofs.Lives
import WorkflowEngine.Proofs.Reachability
import WorkflowEngine.Proofs.Saving
import WorkflowEngine.Proofs.StoreAgreement
import WorkflowEngine.Store.Backend

namespace WorkflowEngine

/-- A call that adds an execution finds the id that it is given unused, and one that ends an execution leaves it
completed or failed. -/
def StoreCall.Proper (stamp : Stamp) (holdingOf : Uuid → Holding) : StoreCall → Prop
  | .createExecution .. => (holdingOf stamp.id).row = none
  | .finishExecution _ f => f.Ends
  | _ => True

/-! ## In memory -/

namespace MemoryStore

/-- What a store in memory holds of an execution. -/
def holdingOf (s : MemoryStore) (id : Uuid) : Holding := ⟨s.executions.find? id, s.stepsOf id⟩

variable {s s' : MemoryStore} {id : Uuid}

theorem holds (s : MemoryStore) (id : Uuid) : s.Holds id (s.holdingOf id).row (s.holdingOf id).log := ⟨rfl, rfl⟩

theorem Holds.moves {row row' : Option ExecutionRow} {log log' : List StepRow} (before : s.Holds id row log)
    (after : s'.Holds id row' log') {l : Line} (move : Moves .verbatim id ⟨row, log⟩ l ⟨row', log'⟩) :
    Moves .verbatim id (s.holdingOf id) l (s'.holdingOf id) := by
  rw [holdingOf, holdingOf, before.row, before.log, after.row, after.log]
  exact move

/-- Whatever a call does to an execution in memory is a move. -/
theorem answer_moves {stamp : Stamp} {call : StoreCall} (proper : call.Proper stamp s.holdingOf) (id : Uuid) :
    Moves .verbatim id (s.holdingOf id) ⟨.store call, (answer stamp call s).1⟩
      ((answer stamp call s).2.holdingOf id) := by
  -- Only here is the reply not told by what changes.
  by_cases listing : ∃ key, call = .listSteps key
  · obtain ⟨key, rfl⟩ := listing
    by_cases own : key = id
    · subst own
      exact .listed
    · exact .foreign ⟨rfl, rfl, rfl, rfl, if_neg own⟩
  have held := s.holds id
  have change := answer_change stamp call s
  generalize (answer stamp call s).1 = reply at change
  generalize (answer stamp call s).2 = s' at change
  cases change with
  | created workflowId payload =>
      by_cases own : stamp.id = id
      · subst own
        have free : s.Holds stamp.id none (s.stepsOf stamp.id) := ⟨proper, rfl⟩
        exact free.moves (free.put_self _) (.created workflowId payload stamp.now)
      · exact held.moves (held.put_other own _) (.foreign ⟨if_neg own, rfl, rfl, rfl, rfl⟩)
  | @started key row startedAt found pending =>
      by_cases own : key = id
      · subst own
        have held : s.Holds key (some row) (s.stepsOf key) := ⟨found, rfl⟩
        exact held.moves (held.put_self _) (.started pending startedAt)
      · exact held.moves (held.put_other own _) (.foreign ⟨rfl, if_neg own, rfl, rfl, rfl⟩)
  | @finished key row f found running =>
      by_cases own : key = id
      · subst own
        have held : s.Holds key (some row) (s.stepsOf key) := ⟨found, rfl⟩
        exact held.moves (held.put_self _) (.finished running proper)
      · exact held.moves (held.put_other own _) (.foreign ⟨rfl, rfl, if_neg own, rfl, rfl⟩)
  | @recorded row step found =>
      by_cases own : step.executionId = id
      · subst own
        have held : s.Holds step.executionId (some row) (s.stepsOf step.executionId) := ⟨found, rfl⟩
        exact held.moves (held.log_self _) (.recorded rfl)
      · exact held.moves (held.log_other own _) (.foreign ⟨rfl, rfl, rfl, if_neg own, rfl⟩)
  | unwritten quiet old => exact .foreign (quiet.foreign old (fun key same => listing ⟨key, same⟩) id)

variable {stamp : Stamp}

/-- A start that is refused changes nothing. -/
theorem answer_markRunning_refused {startedAt : Instant}
    (refused : (answer stamp (.markRunning id startedAt) s).1 ≠ .ok true) :
    (answer stamp (.markRunning id startedAt) s).2 = s := by
  have change := answer_change stamp (.markRunning id startedAt) s
  generalize (answer stamp (.markRunning id startedAt) s).2 = s' at change
  generalize (answer stamp (.markRunning id startedAt) s).1 = reply at change refused
  cases change with
  | started => exact absurd rfl refused
  | unwritten => rfl

/-- An end that is refused changes nothing. -/
theorem answer_finishExecution_refused {f : Finish}
    (refused : (answer stamp (.finishExecution id f) s).1 ≠ .ok ()) :
    (answer stamp (.finishExecution id f) s).2 = s := by
  have change := answer_change stamp (.finishExecution id f) s
  generalize (answer stamp (.finishExecution id f) s).2 = s' at change
  generalize (answer stamp (.finishExecution id f) s).1 = reply at change refused
  cases change with
  | finished => exact absurd rfl refused
  | unwritten => rfl

end MemoryStore

/-! ## On a server -/

/-- Tables in which the constraints of the schema hold and the steps are in order. -/
structure Tables.Sound (t : Tables) : Prop extends Tables.Constrained t, Tables.Ordered t

namespace Tables

/-- What tables hold of an execution. -/
def holdingOf (t : Tables) (id : Uuid) : Holding :=
  ⟨(t.executions.filter (·.id = id)).head?, inOrder (t.steps.filter (·.row.executionId = id))⟩

variable {c : Columns} {t t' : Tables} {id key : Uuid} {n : Nat}

theorem Ordered.log (h : t.Ordered) (id : Uuid) :
    (t.holdingOf id).log = (t.steps.filter (·.row.executionId = id)).map (·.row) :=
  inOrder_eq (h.sorted.filter _)

/-- Statements keep the constraints and the order of steps. -/
theorem Sound.of_executeOn (h : t.Sound) {statement : Statement} {result : statement.Result}
    (executes : t.executeOn c statement = .ok (result, t')) : t'.Sound := by
  refine ⟨executeOn_constrained h.toConstrained executes, ?_⟩
  cases statement with
  | insertStep row =>
      obtain ⟨-, ⟨⟩⟩ := checkKeys_bind.1 executes
      exact h.toOrdered.withStep (c.step row)
  | insertMigration | insertWorkflow | insertNode | insertEdge | insertExecution =>
      obtain ⟨-, ⟨⟩⟩ := checkKeys_bind.1 executes
      exact ⟨h.sorted, h.next⟩
  | createTable table =>
      simp only [executeOn, Except.ok.injEq, Prod.mk.injEq, true_and] at executes
      subst executes
      split
      · exact h.toOrdered
      · exact ⟨h.sorted, h.next⟩
  | _ =>
      cases executes
      exact ⟨h.sorted, h.next⟩

/-- A database without tables is sound, and with that whatever statements make of it. -/
theorem sound_of_none {statements : List Statement} (applied : Tables.none.applyAll c statements = .ok t) :
    t.Sound := by
  have none : Tables.none.Sound := by constructor <;> constructor <;> simp [Tables.none]
  refine applyAll_keeps (fun sound applied => ?_) none applied
  obtain ⟨result, executes⟩ := apply_ok.1 applied
  exact sound.of_executeOn (executeOn_of_execute executes).2

/-- An update of an execution that is in a given state changes the row that is held, or nothing at all. -/
theorem Sound.update (h : t.Sound) {status : String} {change : ExecutionRow → ExecutionRow}
    (updates : t.updateExecutions (fun row => row.id = key ∧ row.status = status) change = (n, t'))
    (own : ∀ row, (change row).id = row.id) :
    (∃ row, row.status = status ∧ n = 1 ∧ (t.holdingOf key) = ⟨some row, (t.holdingOf key).log⟩ ∧
      t'.holdingOf key = ⟨some (change row), (t.holdingOf key).log⟩) ∨ n = 0 ∧ t' = t := by
  have count : (t.updateExecutions (fun row => row.id = key ∧ row.status = status) change).1 = _ :=
    updateExecutions_count
  have rows : (t.updateExecutions (fun row => row.id = key ∧ row.status = status) change).2.executions.filter _ = _ :=
    updateExecutions_self own
  rw [updates] at count rows
  have steps : t'.steps = t.steps := (congrArg (fun outcome => outcome.2.steps) updates).symm
  match held : t.executions.filter (·.id = key) with
  | [] =>
      right
      rw [updateExecutions_none (by simp [held])] at updates
      cases updates
      exact ⟨rfl, rfl⟩
  | [row] =>
      by_cases state : row.status = status
      · left
        rw [held] at count rows
        refine ⟨row, state, by simpa [state] using count, ?_, ?_⟩
        · simp only [holdingOf, held, List.head?_cons]
        · simp only [holdingOf, rows, steps, List.map_cons, state, if_true, List.head?_cons]
      · right
        rw [updateExecutions_none (by simpa [held] using state)] at updates
        cases updates
        exact ⟨rfl, rfl⟩
  | row :: other :: rest =>
      have single := length_filter_key_le_one h.executionKey key
      rw [held] at single
      simp at single

/-- An update leaves what is held of other executions. -/
theorem update_elsewhere {status : String} {change : ExecutionRow → ExecutionRow}
    (updates : t.updateExecutions (fun row => row.id = key ∧ row.status = status) change = (n, t'))
    (own : ∀ row, (change row).id = row.id) (differs : id ≠ key) : t'.holdingOf id = t.holdingOf id := by
  have rows : (t.updateExecutions (fun row => row.id = key ∧ row.status = status) change).2.executions.filter _ = _ :=
    updateExecutions_other own differs
  have steps : t'.steps = t.steps := (congrArg (fun outcome => outcome.2.steps) updates).symm
  rw [updates] at rows
  simp only [holdingOf, rows, steps]

/-- The tables with an execution more. -/
def withExecution (t : Tables) (row : ExecutionRow) : Tables := { t with executions := t.executions ++ [row] }

theorem withExecution_self {row : ExecutionRow} (free : (t.holdingOf row.id).row = Option.none) :
    (t.withExecution row).holdingOf row.id = ⟨some row, (t.holdingOf row.id).log⟩ := by
  simp only [holdingOf, withExecution] at free ⊢
  rw [List.filter_append, List.head?_append, free]
  simp

theorem withExecution_elsewhere {row : ExecutionRow} (differs : row.id ≠ id) :
    (t.withExecution row).holdingOf id = t.holdingOf id := by
  simp [holdingOf, withExecution, List.filter_append, differs]

theorem withStep_self {step : StepRow} (h : t.Sound) :
    (t.withStep step).holdingOf step.executionId =
      ⟨(t.holdingOf step.executionId).row, (t.holdingOf step.executionId).log ++ [step]⟩ := by
  refine Holding.ext rfl ?_
  rw [(h.toOrdered.withStep step).log, h.toOrdered.log]
  simp [withStep]

theorem withStep_elsewhere {step : StepRow} (differs : step.executionId ≠ id) :
    (t.withStep step).holdingOf id = t.holdingOf id := by
  simp [holdingOf, withStep, List.filter_append, differs]

/-! ### Statements as moves -/

theorem moves_insertExecution {workflowId : Uuid} {payload : Json} {now : Instant}
    (free : (t.holdingOf key).row = Option.none) {row : ExecutionRow}
    (executes : t.executeOn c (.insertExecution (.new key workflowId payload now)) = .ok (row, t')) :
    Moves c id (t.holdingOf id) ⟨.store (.createExecution workflowId payload), .ok row⟩ (t'.holdingOf id) := by
  obtain ⟨-, eq⟩ := checkKeys_bind.1 executes
  obtain ⟨rfl, rfl⟩ : c.execution (.new key workflowId payload now) = row ∧
      t.withExecution (c.execution (.new key workflowId payload now)) = t' := Prod.mk.inj eq
  by_cases own : key = id
  · subst own
    have before : t.holdingOf key = ⟨Option.none, (t.holdingOf key).log⟩ := congrArg (Holding.mk · _) free
    have after : (t.withExecution (c.execution (.new key workflowId payload now))).holdingOf key = _ :=
      withExecution_self free
    rw [before, after]
    exact .created workflowId payload now
  · rw [withExecution_elsewhere own]
    exact .foreign ⟨if_neg own, rfl, rfl, rfl, rfl⟩

theorem Sound.moves_startExecution (h : t.Sound) {startedAt : Instant}
    (executes : t.executeOn c (.startExecution key startedAt) = .ok (n, t')) :
    Moves c id (t.holdingOf id) ⟨.store (.markRunning key startedAt), .ok (n == 1)⟩ (t'.holdingOf id) := by
  have started : t.updateExecutions (fun row => row.id = key ∧ row.status = "pending") (·.started startedAt) =
      (n, t') := Except.ok.inj executes
  by_cases own : key = id
  · subst own
    rcases h.update started fun _ => rfl with ⟨row, pending, rfl, before, after⟩ | ⟨rfl, rfl⟩
    · rw [before, after]
      exact .started pending startedAt
    · exact .foreign ⟨rfl, rfl, rfl, rfl, rfl⟩
  · rw [update_elsewhere started (fun _ => rfl) (Ne.symm own)]
    refine .foreign ⟨rfl, ?_, rfl, rfl, rfl⟩
    cases won : n == 1 with
    | true => exact if_neg own
    | false => rfl

theorem Sound.moves_finishExecution (h : t.Sound) {f : Finish} (ends : f.Ends)
    (executes : t.executeOn c (.finishExecution key f) = .ok (n, t')) :
    Moves c id (t.holdingOf id) ⟨.store (.finishExecution key f), if n = 0 then .error .notFound else .ok ()⟩
      (t'.holdingOf id) := by
  have finished : t.updateExecutions (fun row => row.id = key ∧ row.status = "running") (·.finished f) = (n, t') :=
    Except.ok.inj executes
  by_cases own : key = id
  · subst own
    rcases h.update finished fun _ => rfl with ⟨row, running, rfl, before, after⟩ | ⟨rfl, rfl⟩
    · rw [before, after]
      exact .finished running ends
    · exact .foreign (Line.foreign_error ..)
  · rw [update_elsewhere finished (fun _ => rfl) (Ne.symm own)]
    by_cases lost : n = 0
    · rw [if_pos lost]
      exact .foreign (Line.foreign_error ..)
    · rw [if_neg lost]
      exact .foreign ⟨rfl, rfl, if_neg own, rfl, rfl⟩

theorem Sound.moves_insertStep (h : t.Sound) {step : StepRow} {result : Unit}
    (executes : t.executeOn c (.insertStep step) = .ok (result, t')) :
    Moves c id (t.holdingOf id) ⟨.store (.insertStep step), .ok ()⟩ (t'.holdingOf id) := by
  obtain ⟨checked, eq⟩ := checkKeys_bind.1 executes
  obtain rfl : t.withStep (c.step step) = t' := (Prod.mk.inj eq).2
  by_cases own : step.executionId = id
  · subst own
    obtain ⟨-, known⟩ := checkKeys_ok.1 checked
    have present : (t.holdingOf step.executionId).row ≠ Option.none := by
      simpa [holdingOf, List.head?_eq_none_iff] using hasExecution_iff.mp known
    obtain ⟨row, found⟩ := Option.ne_none_iff_exists'.mp present
    have before : t.holdingOf step.executionId = ⟨some row, (t.holdingOf step.executionId).log⟩ :=
      congrArg (Holding.mk · _) found
    have after : (t.withStep (c.step step)).holdingOf step.executionId =
        ⟨some row, (t.holdingOf step.executionId).log ++ [c.step step]⟩ :=
      (withStep_self h).trans (congrArg (Holding.mk · _) found)
    rw [before, after]
    exact .recorded rfl
  · have elsewhere : (c.step step).executionId ≠ id := own
    rw [withStep_elsewhere elsewhere]
    exact .foreign ⟨rfl, rfl, rfl, if_neg own, rfl⟩

theorem moves_selectSteps {rows : List StepRow} (executes : t.executeOn c (.selectSteps key) = .ok (rows, t')) :
    Moves c id (t.holdingOf id) ⟨.store (.listSteps key), .ok rows⟩ (t'.holdingOf id) := by
  cases executes
  by_cases own : key = id
  · subst own
    exact .listed
  · exact .foreign ⟨rfl, rfl, rfl, rfl, if_neg own⟩

end Tables

namespace Server

variable {v : Server} {id key : Uuid} {stamp : Stamp}

/-- Calls keep the constraints, and the order of steps. -/
theorem answer_sound (sound : v.tables.Sound) (call : StoreCall) : (answer stamp call v).2.tables.Sound := by
  obtain ⟨statement, use, sent⟩ := answer_sent stamp call v
  generalize answer stamp call v = outcome at sent
  cases sent with
  | executed executes => exact sound.of_executeOn executes
  | refused stored =>
      rw [stored]
      exact sound

/-- A call makes a move if its statement does, since one that is refused leaves everything as it is. -/
theorem performFor_moves {call : StoreCall} {statement : Statement} {use : statement.Result → StoreReply call}
    (moves : ∀ result t', v.tables.executeOn v.columns statement = .ok (result, t') →
      Moves v.columns id (v.tables.holdingOf id) ⟨.store call, use result⟩ (t'.holdingOf id)) :
    Moves v.columns id (v.tables.holdingOf id) ⟨.store call, (v.performFor statement use).1⟩
      ((v.performFor statement use).2.tables.holdingOf id) := by
  have sent := performFor_sent statement use v
  generalize v.performFor statement use = outcome at sent
  cases sent with
  | executed executes => exact moves _ _ executes
  | refused stored =>
      rw [stored]
      exact .foreign (Line.foreign_error ..)

/-- Whatever a call does to an execution on a server is a move. -/
theorem answer_moves (sound : v.tables.Sound) {call : StoreCall} (proper : call.Proper stamp v.tables.holdingOf)
    (id : Uuid) :
    Moves v.columns id (v.tables.holdingOf id) ⟨.store call, (answer stamp call v).1⟩
      ((answer stamp call v).2.tables.holdingOf id) := by
  cases call with
  | createExecution => exact performFor_moves fun _ _ => Tables.moves_insertExecution proper
  | markRunning => exact performFor_moves fun _ _ => sound.moves_startExecution
  | finishExecution => exact performFor_moves fun _ _ => sound.moves_finishExecution proper
  | insertStep => exact performFor_moves fun _ _ => sound.moves_insertStep
  | listSteps => exact performFor_moves fun _ _ => Tables.moves_selectSteps
  | getExecution | getWorkflow | listNodes | listEdges =>
      refine performFor_moves fun _ _ reads => ?_
      cases reads
      exact .foreign ⟨rfl, rfl, rfl, rfl, rfl⟩

/-- A start that is refused changes nothing. -/
theorem answer_markRunning_refused (sound : v.tables.Sound) {startedAt : Instant}
    (refused : (answer stamp (.markRunning id startedAt) v).1 ≠ .ok true) :
    (answer stamp (.markRunning id startedAt) v).2.tables = v.tables := by
  have sent := performFor_sent (.startExecution id startedAt) (fun n => Except.ok (n == 1)) v
  change Sent _ _ v (answer stamp (.markRunning id startedAt) v) at sent
  generalize answer stamp (.markRunning id startedAt) v = outcome at sent refused
  cases sent with
  | refused stored => exact stored
  | executed executes =>
      rcases sound.update (Except.ok.inj executes) fun _ => rfl with
        ⟨row, pending, rfl, -⟩ | ⟨-, same⟩
      · exact absurd rfl refused
      · exact same

/-- An end that is refused changes nothing. -/
theorem answer_finishExecution_refused (sound : v.tables.Sound) {f : Finish}
    (refused : (answer stamp (.finishExecution id f) v).1 ≠ .ok ()) :
    (answer stamp (.finishExecution id f) v).2.tables = v.tables := by
  have sent := performFor_sent (.finishExecution id f)
    (fun n => if n = 0 then Except.error StoreFault.notFound else .ok ()) v
  change Sent _ _ v (answer stamp (.finishExecution id f) v) at sent
  generalize answer stamp (.finishExecution id f) v = outcome at sent refused
  cases sent with
  | refused stored => exact stored
  | executed executes =>
      rcases sound.update (Except.ok.inj executes) fun _ => rfl with
        ⟨row, running, rfl, -⟩ | ⟨-, same⟩
      · exact absurd rfl refused
      · exact same

end Server

/-! ## Stores of either kind -/

/-- What is promised of an execution, of which a store held something at first, was told something, and holds something
at last.  One start and one end account for its row, and an end comes after a start unless the execution was started
before; each log that was told is the beginning of the next. -/
structure Lifecycle (c : Columns) (id : Uuid) (first : Holding) (told : Dialogue) (last : Holding) : Prop where
  row : RowAccount id first.row told last.row
  log : LogAccount c id first.log told last.log
  startedBefore : (∀ row, first.row = some row → row.status = ExecutionStatus.pending.name) →
    ∀ (before : Dialogue) (l : Line) (after : Dialogue), told = before ++ l :: after → l.finished? id ≠ none →
      before.starts id ≠ []

theorem Lives.lifecycle {c : Columns} {id : Uuid} {h h' : Holding} {d : Dialogue} (lives : Lives c id h d h') :
    Lifecycle c id h d h' where
  row := lives.rowAccount
  log := lives.logAccount
  startedBefore unstarted _ _ _ told finished := lives.started_before unstarted told finished

namespace Backend

/-- What a store holds of an execution. -/
def holdingOf : Backend → Uuid → Holding
  | .memory s => s.holdingOf
  | .relational v => v.tables.holdingOf

/-- What a store makes of the values that it is given.  One in memory keeps them. -/
def columns : Backend → Columns
  | .memory _ => .verbatim
  | .relational v => v.columns

/-- All that a store holds. -/
def content : Backend → MemoryStore ⊕ Tables
  | .memory s => .inl s
  | .relational v => .inr v.tables

/-- The tables of a server are sound. -/
def Sound : Backend → Prop
  | .memory _ => True
  | .relational v => v.tables.Sound

/-- A store serves calls, one after another, each with the id and the time that it would give to a new execution. -/
def serve (b : Backend) : List (Stamp × StoreCall) → Dialogue × Backend
  | [] => ([], b)
  | (stamp, call) :: rest =>
      let (reply, b) := b.answer stamp call
      let (told, b) := b.serve rest
      (⟨.store call, reply⟩ :: told, b)

/-- Every one of some calls, one after another, is proper. -/
def Serves (b : Backend) : List (Stamp × StoreCall) → Prop
  | [] => True
  | (stamp, call) :: rest => call.Proper stamp b.holdingOf ∧ (b.answer stamp call).2.Serves rest

/-- Starts and ends that are refused leave all that a store holds as it is. -/
structure RefusesCleanly (b : Backend) : Prop where
  starts : ∀ stamp id startedAt, (b.answer stamp (.markRunning id startedAt)).1 ≠ .ok true →
    (b.answer stamp (.markRunning id startedAt)).2.content = b.content
  ends : ∀ stamp id f, (b.answer stamp (.finishExecution id f)).1 ≠ .ok () →
    (b.answer stamp (.finishExecution id f)).2.content = b.content

/-- A store enforces the lifecycle while it serves calls: every execution has a life that is accounted for, and what is
refused at last is refused cleanly. -/
structure Enforces (b : Backend) (calls : List (Stamp × StoreCall)) : Prop where
  lifecycle : ∀ id, Lifecycle b.columns id (b.holdingOf id) (b.serve calls).1 ((b.serve calls).2.holdingOf id)
  refusals : (b.serve calls).2.RefusesCleanly

variable {b : Backend} {stamp : Stamp} {call : StoreCall} {calls : List (Stamp × StoreCall)} {id : Uuid}

theorem answer_moves (sound : b.Sound) (proper : call.Proper stamp b.holdingOf) (id : Uuid) :
    Moves b.columns id (b.holdingOf id) ⟨.store call, (b.answer stamp call).1⟩
      ((b.answer stamp call).2.holdingOf id) := by
  cases b with
  | memory s => exact MemoryStore.answer_moves proper id
  | relational v => exact Server.answer_moves sound proper id

theorem answer_sound (sound : b.Sound) : (b.answer stamp call).2.Sound := by
  cases b with
  | memory s => trivial
  | relational v => exact Server.answer_sound sound call

theorem answer_columns : (b.answer stamp call).2.columns = b.columns := by
  cases b with
  | memory s => rfl
  | relational v => exact Server.answer_columns call

theorem refusesCleanly (sound : b.Sound) : b.RefusesCleanly where
  starts stamp id startedAt refused := by
    cases b with
    | memory s =>
        have refused : (MemoryStore.answer stamp (.markRunning id startedAt) s).1 ≠ .ok true := refused
        exact congrArg Sum.inl (MemoryStore.answer_markRunning_refused refused)
    | relational v =>
        have refused : (Server.answer stamp (.markRunning id startedAt) v).1 ≠ .ok true := refused
        exact congrArg Sum.inr (Server.answer_markRunning_refused sound refused)
  ends stamp id f refused := by
    cases b with
    | memory s =>
        have refused : (MemoryStore.answer stamp (.finishExecution id f) s).1 ≠ .ok () := refused
        exact congrArg Sum.inl (MemoryStore.answer_finishExecution_refused refused)
    | relational v =>
        have refused : (Server.answer stamp (.finishExecution id f) v).1 ≠ .ok () := refused
        exact congrArg Sum.inr (Server.answer_finishExecution_refused sound refused)

theorem serve_sound (sound : b.Sound) : (b.serve calls).2.Sound := by
  induction calls generalizing b with
  | nil => exact sound
  | cons c rest ih => exact ih (answer_sound sound)

/-- Calls, one after another, give every execution a life. -/
theorem serve_lives (sound : b.Sound) (serves : b.Serves calls) (id : Uuid) :
    Lives b.columns id (b.holdingOf id) (b.serve calls).1 ((b.serve calls).2.holdingOf id) := by
  induction calls generalizing b with
  | nil => exact .nil
  | cons c rest ih =>
      have sound' : (b.answer c.1 c.2).2.Sound := answer_sound sound
      have later := ih sound' serves.2
      rw [answer_columns] at later
      exact .cons (answer_moves sound serves.1 id) later

end Backend

/-- Whatever calls are made to a store in memory or on a server, by whom and in whatever order, every execution is
started once at most and ended once at most, after it was started.  These calls write what is written to an execution
after it was added, and every log that is told begins with what was told before.  At any time, a start or an end that is
refused changes nothing. -/
theorem lifecycle_enforced {b : Backend} (sound : b.Sound) {calls : List (Stamp × StoreCall)}
    (serves : b.Serves calls) : b.Enforces calls where
  lifecycle id := (Backend.serve_lives sound serves id).lifecycle
  refusals := Backend.refusesCleanly (Backend.serve_sound sound)

/-- An execution that several callers start and end, too early and again. -/
def contendedCalls : List (Stamp × StoreCall) :=
  let stamp : Stamp := ⟨.nil, 0⟩
  [(⟨.ofNat 1, 0⟩, .createExecution .nil .null), (stamp, .finishExecution (.ofNat 1) ⟨"completed", none, 4, 4⟩),
    (stamp, .markRunning (.ofNat 1) 5), (stamp, .markRunning (.ofNat 1) 6), (stamp, .listSteps (.ofNat 1)),
    (stamp, .insertStep ⟨.ofNat 3, .ofNat 1, "start", "completed", .null, .null, none, 5, 5⟩),
    (stamp, .finishExecution (.ofNat 1) ⟨"failed", some "boom", 7, 2⟩), (stamp, .listSteps (.ofNat 1)),
    (stamp, .finishExecution (.ofNat 1) ⟨"completed", none, 8, 3⟩)]

theorem messageServer_sound : messageServer.tables.Sound where
  workflowKey := by decide
  nodeKey := by decide
  edgeKey := by decide
  executionKey := by decide
  stepKey := by decide
  nodeWorkflow := by decide
  edgeWorkflow := by decide
  executionWorkflow := by decide
  stepExecution := by decide
  sorted := by decide
  next := by decide

theorem lifecycle_enforced_contended :
    (Backend.memory (MemoryStore.empty.putWorkflow messageRows)).Enforces contendedCalls ∧
      (Backend.relational messageServer).Enforces contendedCalls := by
  have memory : Backend.Sound (.memory (MemoryStore.empty.putWorkflow messageRows)) ∧
      Backend.Serves (.memory (MemoryStore.empty.putWorkflow messageRows)) contendedCalls :=
    ⟨trivial, rfl, .inl rfl, trivial, trivial, trivial, trivial, .inr rfl, trivial, .inl rfl, trivial⟩
  have relational : Backend.Sound (.relational messageServer) ∧
      Backend.Serves (.relational messageServer) contendedCalls :=
    ⟨messageServer_sound, rfl, .inl rfl, trivial, trivial, trivial, trivial, .inr rfl, trivial, .inl rfl, trivial⟩
  exact ⟨lifecycle_enforced memory.1 memory.2, lifecycle_enforced relational.1 relational.2⟩

end WorkflowEngine
