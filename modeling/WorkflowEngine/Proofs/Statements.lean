/-
Module: WorkflowEngine.Proofs.Statements
Layer: Proofs
Purpose: What single statements do to a server and to its tables.  A statement that is refused leaves the tables as
  they are; one that is not does what the tables say (`Server.perform_performed`), and its values were taken
  (`Columns.Takes`).  Rows come out in the order of their numbers (`Tables.Ordered`), and an update changes the rows of
  one id and no other.
Imports: WorkflowEngine.Store.Relational.Server
Trusted boundary: none
Main exports: Columns.Takes, Server.Alike, Server.Performed, Server.perform_performed, Server.Ready,
  Tables.inOrder_eq, Tables.Ordered, Server.performFor_calm, Server.Sent, Server.performFor_sent, Server.answer_sent
-/
import WorkflowEngine.Store.Relational.Server

namespace WorkflowEngine

/-! ## Values -/

/-- Columns take values. -/
def Columns.Takes (c : Columns) (values : List BoundValue) : Prop := ∀ value ∈ values, c.refusal? value = none

variable {c : Columns}

theorem Columns.takes_nil : c.Takes [] := nofun

theorem Columns.takes_singleton {value : BoundValue} : c.Takes [value] ↔ c.refusal? value = none :=
  List.forall_mem_singleton

/-! Columns make nothing else of ids than what they are. -/

@[simp] theorem Columns.node_id (n : NodeRow) : (c.node n).id = n.id := rfl

@[simp] theorem Columns.node_workflowId (n : NodeRow) : (c.node n).workflowId = n.workflowId := rfl

@[simp] theorem Columns.execution_id (e : ExecutionRow) : (c.execution e).id = e.id := rfl

@[simp] theorem Columns.execution_workflowId (e : ExecutionRow) : (c.execution e).workflowId = e.workflowId := rfl

@[simp] theorem Columns.step_id (s : StepRow) : (c.step s).id = s.id := rfl

@[simp] theorem Columns.step_executionId (s : StepRow) : (c.step s).executionId = s.executionId := rfl

namespace Tables

variable {t : Tables} {statement : Statement}

/-- A statement whose values are taken is executed. -/
theorem executeBound_taken (taken : c.Takes statement.bound) :
    t.executeBound c statement = t.executeOn c statement := by
  have unrefused : statement.bound.findSome? c.refusal? = Option.none := List.findSome?_eq_none_iff.mpr taken
  rw [executeBound, unrefused]

/-- A statement that is executed had its values taken. -/
theorem taken_of_executeBound {outcome : statement.Result × Tables}
    (executes : t.executeBound c statement = .ok outcome) :
    c.Takes statement.bound ∧ t.executeOn c statement = .ok outcome := by
  unfold executeBound at executes
  cases refused : statement.bound.findSome? c.refusal? with
  | none =>
      rw [refused] at executes
      exact ⟨List.findSome?_eq_none_iff.mp refused, executes⟩
  | some r =>
      rw [refused] at executes
      cases executes

/-- A statement on a table that exists is executed if its values are taken. -/
theorem execute_existing {table : TableName} (needs : statement.kind.table? = some table) (exist : table ∈ t.existing)
    (taken : c.Takes statement.bound) : t.execute c statement = t.executeOn c statement := by
  simp [execute, needs, exist, executeBound_taken taken]

/-- A statement that is executed was executed on tables that exist, with values that were taken. -/
theorem executeOn_of_execute {outcome : statement.Result × Tables} (executes : t.execute c statement = .ok outcome) :
    c.Takes statement.bound ∧ t.executeOn c statement = .ok outcome := by
  unfold execute at executes
  split at executes
  · split at executes
    · exact taken_of_executeBound executes
    · cases executes
  · exact taken_of_executeBound executes

end Tables

/-! ## Statements on a server -/

namespace Server

variable {v : Server}

/-- What a server refuses without reason, and what its columns make of values, is the same of another. -/
structure Alike (v v' : Server) : Prop where
  faults : v'.faults = v.faults
  columns : v'.columns = v.columns

theorem Alike.refl (v : Server) : Alike v v := ⟨rfl, rfl⟩

theorem Alike.trans {v' v'' : Server} (first : Alike v v') (second : Alike v' v'') : Alike v v'' :=
  ⟨second.faults.trans first.faults, second.columns.trans first.columns⟩

/-- What comes of a statement, and the server after it. -/
inductive Performed (statement : Statement) (v : Server) :
    Except DatabaseFault statement.Result → Server → Prop where
  | executed {result : statement.Result} {tables : Tables} {v' : Server}
      (executes : v.tables.execute v.columns statement = .ok (result, tables)) (stored : v'.tables = tables)
      (same : v.Alike v') : Performed statement v (.ok result) v'
  | refused {f : DatabaseFault} {v' : Server} (stored : v'.tables = v.tables) (same : v.Alike v') :
      Performed statement v (.error f) v'

theorem perform_performed (statement : Statement) (v : Server) :
    Performed statement v (v.perform statement).1 (v.perform statement).2 := by
  unfold perform ask
  cases v.faults (.statement statement.kind) (v.history.count (.statement statement.kind)) with
  | some refusal => exact .refused rfl ⟨rfl, rfl⟩
  | none =>
      cases executes : v.tables.execute v.columns statement with
      | error refusal =>
          simp only [executes]
          exact .refused rfl ⟨rfl, rfl⟩
      | ok outcome =>
          obtain ⟨result, tables⟩ := outcome
          simp only [executes]
          exact .executed executes rfl ⟨rfl, rfl⟩

/-- A server that refuses nothing without reason and on which the tables of the schema exist. -/
structure Ready (v : Server) : Prop where
  calm : ∀ what n, v.faults what n = none
  existing : ∀ table ∈ Tables.schema, table ∈ v.tables.existing

theorem perform_calm {statement : Statement} (calm : ∀ n, v.faults (.statement statement.kind) n = none)
    {result : statement.Result} {tables : Tables}
    (executes : v.tables.execute v.columns statement = .ok (result, tables)) :
    ∃ v', v.perform statement = (.ok result, v') ∧ v'.tables = tables ∧ v.Alike v' := by
  unfold perform ask
  rw [calm]
  simp only [executes]
  exact ⟨_, rfl, rfl, rfl, rfl⟩

end Server

namespace Tables

variable {t : Tables}

/-- A row is inserted if its key is free and what it refers to exists. -/
theorem checkKeys_ok {table : TableName} {inUse : Bool} {foreign : Option (String × Bool)} :
    checkKeys table inUse foreign = .ok () ↔
      inUse = false ∧ foreign.all Prod.snd = true := by
  rcases inUse with _ | _ <;> rcases foreign with _ | ⟨column, _ | _⟩ <;> simp [checkKeys]

theorem checkKeys_bind {table : TableName} {inUse : Bool} {foreign : Option (String × Bool)} {α : Type} {new a : α} :
    (do checkKeys table inUse foreign; Except.ok new) = .ok a ↔ checkKeys table inUse foreign = .ok () ∧ new = a := by
  cases checkKeys table inUse foreign with
  | error r => simp [bind, Except.bind]
  | ok => simp [bind, Except.bind]

/-- Rows that were inserted in the order of their numbers come out in that order. -/
theorem inOrder_eq {α : Type} {rows : List (Placed α)} (sorted : rows.Pairwise fun a b => a.place ≤ b.place) :
    inOrder rows = rows.map (·.row) := by
  rw [inOrder, List.mergeSort_of_pairwise]
  simpa using sorted

/-! ## Steps -/

/-- The steps are numbered in the order in which they were added. -/
structure Ordered (t : Tables) : Prop where
  sorted : t.steps.Pairwise fun a b => a.place ≤ b.place
  next : ∀ p ∈ t.steps, p.place < t.nextStep

/-- The tables with a step more. -/
def withStep (t : Tables) (step : StepRow) : Tables :=
  { t with steps := t.steps ++ [⟨step, t.nextStep⟩], nextStep := t.nextStep + 1 }

theorem Ordered.withStep (h : t.Ordered) (step : StepRow) : (t.withStep step).Ordered where
  sorted := by
    rw [Tables.withStep, List.pairwise_append]
    refine ⟨h.sorted, List.pairwise_singleton .., fun p member q last => ?_⟩
    rw [List.mem_singleton.mp last]
    exact Int.le_of_lt (h.next p member)
  next p member := by
    rcases List.mem_append.mp member with old | last
    · exact Int.lt_trans (h.next p old) (Int.lt_succ _)
    · rw [List.mem_singleton.mp last]
      exact Int.lt_succ _

/-! ## Updates -/

section Updates

variable {id : Uuid} {status : String} {change : ExecutionRow → ExecutionRow}

/-- The rows of an id and a status are counted among those of the id. -/
theorem updateExecutions_count :
    (t.updateExecutions (fun row => row.id = id ∧ row.status = status) change).1 =
      (t.executions.filter (·.id = id)).countP (·.status = status) := by
  change List.countP _ t.executions = _
  rw [List.countP_filter]
  apply List.countP_congr
  intro row _
  simp [and_comm]

/-- An update that keeps ids changes the rows of any id where they stand. -/
private theorem updateExecutions_filter (own : ∀ row, (change row).id = row.id) (other : Uuid) :
    (t.updateExecutions (fun row => row.id = id ∧ row.status = status) change).2.executions.filter (·.id = other) =
      (t.executions.filter (·.id = other)).map fun row =>
        if row.id = id ∧ row.status = status then change row else row := by
  simp only [updateExecutions, decide_eq_true_eq, List.filter_map]
  congr 1
  apply List.filter_congr
  intro row _
  simp only [Function.comp_apply]
  split
  · rw [own]
  · rfl

theorem updateExecutions_self (own : ∀ row, (change row).id = row.id) :
    (t.updateExecutions (fun row => row.id = id ∧ row.status = status) change).2.executions.filter (·.id = id) =
      (t.executions.filter (·.id = id)).map fun row => if row.status = status then change row else row := by
  rw [updateExecutions_filter own]
  apply List.map_congr_left
  intro row member
  have same : row.id = id := by simpa using (List.mem_filter.mp member).2
  simp only [same, true_and]

theorem updateExecutions_other (own : ∀ row, (change row).id = row.id) {other : Uuid} (differs : other ≠ id) :
    (t.updateExecutions (fun row => row.id = id ∧ row.status = status) change).2.executions.filter (·.id = other) =
      t.executions.filter (·.id = other) := by
  rw [updateExecutions_filter own]
  refine (List.map_congr_left fun row member => ?_).trans (List.map_id _)
  have same : row.id = other := by simpa using (List.mem_filter.mp member).2
  simp only [same, differs, false_and, if_false, id_eq]

/-- An update that selects no row changes nothing. -/
theorem updateExecutions_none (none : ∀ row ∈ t.executions.filter (·.id = id), row.status ≠ status) :
    t.updateExecutions (fun row => row.id = id ∧ row.status = status) change = (0, t) := by
  have unselected : ∀ row ∈ t.executions, ¬ (row.id = id ∧ row.status = status) := by
    rintro row member ⟨own, state⟩
    exact none row (by simp [member, own]) state
  have count : t.executions.countP (fun row => row.id = id ∧ row.status = status) = 0 := by
    simpa [List.countP_eq_zero] using unselected
  have rows : t.executions.map (fun row => if row.id = id ∧ row.status = status then change row else row) =
      t.executions := by
    refine (List.map_congr_left fun row member => ?_).trans (List.map_id _)
    exact if_neg (unselected row member)
  simp only [updateExecutions, decide_eq_true_eq, rows, count]

end Updates

/-- An id is in use if there is a row of it. -/
theorem hasWorkflow_iff {id : Uuid} : t.hasWorkflow id = true ↔ t.workflows.filter (·.id = id) ≠ [] := by
  simp [hasWorkflow, List.filter_eq_nil_iff]

theorem hasExecution_iff {id : Uuid} : t.hasExecution id = true ↔ t.executions.filter (·.id = id) ≠ [] := by
  simp [hasExecution, List.filter_eq_nil_iff]

end Tables

/-! ## Calls -/

namespace Server

/-- What a call makes of a statement that a server executes. -/
theorem performFor_calm {v : Server} {α : Type} {statement : Statement} {table : TableName}
    (calm : ∀ n, v.faults (.statement statement.kind) n = none) (exist : table ∈ v.tables.existing)
    (use : statement.Result → Except StoreFault α) {result : statement.Result} {tables : Tables}
    (executes : v.tables.executeOn v.columns statement = .ok (result, tables))
    (needs : statement.kind.table? = some table) (taken : v.columns.Takes statement.bound) :
    ∃ v', v.performFor statement use = (use result, v') ∧ v'.tables = tables ∧ v.Alike v' := by
  rw [← Tables.execute_existing needs exist taken] at executes
  obtain ⟨v', performed, stored, same⟩ := perform_calm calm executes
  refine ⟨v', ?_, stored, same⟩
  simp only [performFor, performed]

/-- What comes of a statement that is sent for a call, and the server after it. -/
inductive Sent {α : Type} (statement : Statement) (use : statement.Result → Except StoreFault α) (v : Server) :
    Except StoreFault α × Server → Prop where
  | executed {result : statement.Result} {v' : Server}
      (executes : v.tables.executeOn v.columns statement = .ok (result, v'.tables))
      (taken : v.columns.Takes statement.bound) (same : v.Alike v') : Sent statement use v (use result, v')
  | refused {f : StoreFault} {v' : Server} (stored : v'.tables = v.tables) (same : v.Alike v') :
      Sent statement use v (.error f, v')

theorem performFor_sent {α : Type} (statement : Statement) (use : statement.Result → Except StoreFault α)
    (v : Server) : Sent statement use v (v.performFor statement use) := by
  have performed := perform_performed statement v
  unfold performFor
  generalize v.perform statement = outcome at performed
  obtain ⟨reply, v'⟩ := outcome
  cases performed with
  | executed executes stored same =>
      subst stored
      obtain ⟨taken, executes⟩ := Tables.executeOn_of_execute executes
      exact .executed executes taken same
  | refused stored same => exact .refused stored same

/-- Every call is one statement. -/
theorem answer_sent (stamp : Stamp) (call : StoreCall) (v : Server) :
    ∃ statement use, Sent statement use v (answer stamp call v) := by
  cases call <;> exact ⟨_, _, performFor_sent ..⟩

/-- Calls leave the columns as they are. -/
theorem answer_columns (call : StoreCall) : (answer stamp call v).2.columns = v.columns := by
  obtain ⟨statement, use, sent⟩ := answer_sent stamp call v
  generalize answer stamp call v = outcome at sent
  cases sent with
  | executed _ _ same => exact same.columns
  | refused _ same => exact same.columns

end Server

end WorkflowEngine
