/-
Module: WorkflowEngine.Proofs.StoreAgreement
Layer: Proofs
Purpose: The store in memory and the store on a server, call by call.  Both hold the same records, up to the ids that
  each gives to new executions (`Agree`), and every call whose values the columns keep (`Columns.Keeps`) keeps it so.
  They answer all these calls alike but one: told to start an execution that is not there, the store in memory reports
  that there is no such row, while the server answers that the execution was not pending (`answered_alike`,
  `unknown_start_differs`).  Values that the columns do not keep are told apart (`createExecution_alike_iff`).
Imports: Mathlib.Data.List.Forall2, Mathlib.Logic.Equiv.Basic, WorkflowEngine.Proofs.Accomplishment,
  WorkflowEngine.Proofs.Statements
Trusted boundary: none
Main exports: StoreCall.renamed, ReplyAlike, Told, Columns.Keeps, PairedCall.Proper, Agree, createExecution_alike_iff,
  answered_alike, unknown_start_differs
-/
import Mathlib.Data.List.Forall2
import Mathlib.Logic.Equiv.Basic
import WorkflowEngine.Proofs.Accomplishment
import WorkflowEngine.Proofs.Statements

namespace WorkflowEngine

/-! ## Records under other ids -/

variable {ρ : Equiv.Perm Uuid}

/-- A step of an execution that has another id. -/
def StepRow.renamed (ρ : Equiv.Perm Uuid) (s : StepRow) : StepRow := { s with executionId := ρ s.executionId }

/-- An execution that has another id and was created at another time. -/
def ExecutionRow.SameAs (ρ : Equiv.Perm Uuid) (row row' : ExecutionRow) : Prop :=
  ∃ createdAt, row' = { row with id := ρ row.id, createdAt := createdAt }

theorem ExecutionRow.SameAs.id {row row' : ExecutionRow} (h : row.SameAs ρ row') : row'.id = ρ row.id := by
  obtain ⟨createdAt, rfl⟩ := h
  rfl

theorem ExecutionRow.SameAs.status {row row' : ExecutionRow} (h : row.SameAs ρ row') : row'.status = row.status := by
  obtain ⟨createdAt, rfl⟩ := h
  rfl

/-- A call about executions that have other ids. -/
def StoreCall.renamed (ρ : Equiv.Perm Uuid) : StoreCall → StoreCall
  | .createExecution workflowId payload => .createExecution workflowId payload
  | .getExecution id => .getExecution (ρ id)
  | .markRunning id startedAt => .markRunning (ρ id) startedAt
  | .finishExecution id f => .finishExecution (ρ id) f
  | .getWorkflow id => .getWorkflow id
  | .listNodes id => .listNodes id
  | .listEdges id => .listEdges id
  | .insertStep s => .insertStep (s.renamed ρ)
  | .listSteps id => .listSteps (ρ id)

/-- Two stores answer a call alike: both fail for one reason, or both succeed with the same, up to ids and times of
creation. -/
inductive ReplyAlike (ρ : Equiv.Perm Uuid) :
    (call : StoreCall) → StoreReply call → StoreReply (call.renamed ρ) → Prop where
  | failed {call : StoreCall} (f : StoreFault) : ReplyAlike ρ call (.error f) (.error f)
  | created {workflowId : Uuid} {payload : Json} {row row' : ExecutionRow} (same : row.SameAs ρ row') :
      ReplyAlike ρ (.createExecution workflowId payload) (.ok row) (.ok row')
  | found {id : Uuid} {row row' : ExecutionRow} (same : row.SameAs ρ row') :
      ReplyAlike ρ (.getExecution id) (.ok row) (.ok row')
  | marked {id : Uuid} {startedAt : Instant} (won : Bool) : ReplyAlike ρ (.markRunning id startedAt) (.ok won) (.ok won)
  | finished {id : Uuid} {f : Finish} : ReplyAlike ρ (.finishExecution id f) (.ok ()) (.ok ())
  | workflow {id : Uuid} (row : WorkflowRow) : ReplyAlike ρ (.getWorkflow id) (.ok row) (.ok row)
  | nodes {id : Uuid} (rows : List NodeRow) : ReplyAlike ρ (.listNodes id) (.ok rows) (.ok rows)
  | edges {id : Uuid} (rows : List EdgeRow) : ReplyAlike ρ (.listEdges id) (.ok rows) (.ok rows)
  | recorded {s : StepRow} : ReplyAlike ρ (.insertStep s) (.ok ()) (.ok ())
  | steps {id : Uuid} (rows : List StepRow) : ReplyAlike ρ (.listSteps id) (.ok rows) (.ok (rows.map (·.renamed ρ)))

/-- What the two stores tell, where the store in memory is in a given state.  They tell the same, but for a start of an
execution that is not there. -/
inductive Told (ρ : Equiv.Perm Uuid) (s : MemoryStore) :
    (call : StoreCall) → StoreReply call → StoreReply (call.renamed ρ) → Prop where
  | alike {call : StoreCall} {reply : StoreReply call} {reply' : StoreReply (call.renamed ρ)}
      (known : ∀ id startedAt, call = .markRunning id startedAt → s.executions.find? id ≠ none)
      (same : ReplyAlike ρ call reply reply') : Told ρ s call reply reply'
  | unknown {id : Uuid} {startedAt : Instant} (absent : s.executions.find? id = none) :
      Told ρ s (.markRunning id startedAt) (.error .notFound) (.ok false)

theorem Told.other {s : MemoryStore} {call : StoreCall} {reply : StoreReply call}
    {reply' : StoreReply (call.renamed ρ)} (notStart : (call.method == .markRunning) = false)
    (same : ReplyAlike ρ call reply reply') : Told ρ s call reply reply' := by
  refine .alike ?_ same
  rintro id startedAt rfl
  cases notStart

/-! ## Calls to both stores -/

/-- Columns keep a value: they take it, and it is read as it was bound. -/
def Columns.Keeps (c : Columns) : BoundValue → Prop
  | .text t => c.refusal? (.text t) = none
  | .json j => c.refusal? (.json j) = none ∧ c.read j = j

/-- The values that a call writes to columns of text and of JSON. -/
def StoreCall.bound : StoreCall → List BoundValue
  | .createExecution _ payload => [.json payload]
  | .insertStep step => (Statement.insertStep step).bound
  | .finishExecution id f => (Statement.finishExecution id f).bound
  | _ => []

section Columns

variable {c : Columns}

theorem Columns.Keeps.taken {value : BoundValue} (kept : c.Keeps value) : c.refusal? value = none := by
  cases value with
  | text => exact kept
  | json => exact kept.1

theorem Columns.takes_of_keeps {values : List BoundValue} (kept : ∀ value ∈ values, c.Keeps value) : c.Takes values :=
  fun value member => (kept value member).taken

/-- A step is read as it was written if its values are kept. -/
theorem Columns.step_of_keeps {step : StepRow} (kept : ∀ value ∈ (StoreCall.insertStep step).bound, c.Keeps value) :
    c.step step = step := by
  have input : c.Keeps (.json step.input) := kept _ (by simp [StoreCall.bound, Statement.bound])
  have output : c.Keeps (.json step.output) := kept _ (by simp [StoreCall.bound, Statement.bound])
  rw [Columns.step, input.2, output.2]

end Columns

/-- A call to both stores, with the id that the store in memory gives to a new execution, and the times at which the two
stores answer. -/
structure PairedCall where
  call : StoreCall
  id : Uuid
  now : Instant
  now' : Instant

namespace PairedCall

/-- The answer of the store in memory. -/
def inMemory (c : PairedCall) (s : MemoryStore) : StoreReply c.call × MemoryStore :=
  MemoryStore.answer ⟨c.id, c.now⟩ c.call s

/-- The answer of the server. -/
def onServer (ρ : Equiv.Perm Uuid) (c : PairedCall) (v : Server) : StoreReply (c.call.renamed ρ) × Server :=
  Server.answer ⟨ρ c.id, c.now'⟩ (c.call.renamed ρ) v

/-- A call that adds something adds something new to something that is there. -/
def Adds (c : PairedCall) (s : MemoryStore) : Prop :=
  match c.call with
  | .createExecution workflowId _ => s.workflows.find? workflowId ≠ none ∧ s.executions.find? c.id = none
  | .insertStep step => s.executions.find? step.executionId ≠ none ∧ ∀ id, ∀ other ∈ s.stepsOf id, other.id ≠ step.id
  | _ => True

/-- What is required of a call where a store in memory is in a given state and a server has given columns. -/
structure Proper (columns : Columns) (c : PairedCall) (s : MemoryStore) : Prop where
  kept : ∀ value ∈ c.call.bound, columns.Keeps value
  adds : c.Adds s

end PairedCall

/-- Every one of some calls, one after another, is proper. -/
def AllProper (columns : Columns) : List PairedCall → MemoryStore → Prop
  | [], _ => True
  | c :: rest, s => c.Proper columns s ∧ AllProper columns rest (c.inMemory s).2

/-- Two stores tell the same of calls, one after another, but for starts of what is not there. -/
def ToldAlike (ρ : Equiv.Perm Uuid) : List PairedCall → MemoryStore → Server → Prop
  | [], _, _ => True
  | c :: rest, s, v =>
      Told ρ s c.call (c.inMemory s).1 (c.onServer ρ v).1 ∧ ToldAlike ρ rest (c.inMemory s).2 (c.onServer ρ v).2

/-! ## Agreement -/

/-- The same workflows are held in memory and in tables. -/
structure SameWorkflows (s : MemoryStore) (t : Tables) : Prop where
  workflows : ∀ id, t.workflows.filter (·.id = id) = (s.workflows.find? id).toList
  nodes : ∀ id, Tables.inOrder (t.nodes.filter (·.row.workflowId = id)) = (s.nodes.find? id).getD []
  edges : ∀ id, Tables.inOrder (t.edges.filter (·.row.workflowId = id)) = (s.edges.find? id).getD []

/-- The same is held in memory and in tables, up to ids and times of creation of executions. -/
structure Agree (ρ : Equiv.Perm Uuid) (s : MemoryStore) (t : Tables) : Prop extends SameWorkflows s t where
  executions : ∀ id, List.Forall₂ (ExecutionRow.SameAs ρ) (s.executions.find? id).toList
    (t.executions.filter (·.id = ρ id))
  steps : ∀ id, (t.steps.filter (·.row.executionId = ρ id)).map (·.row) = (s.stepsOf id).map (·.renamed ρ)
  sorted : t.steps.Pairwise fun a b => a.place ≤ b.place
  next : ∀ p ∈ t.steps, p.place < t.nextStep

/-- Two stores that hold the same workflows and no executions agree. -/
theorem SameWorkflows.agree {s : MemoryStore} {t : Tables} (same : SameWorkflows s t) (executions : s.executions = .empty)
    (steps : s.steps = .empty) (executions' : t.executions = []) (steps' : t.steps = []) : Agree ρ s t where
  toSameWorkflows := same
  executions id := by simp [executions, executions']
  steps id := by simp [steps', MemoryStore.stepsOf, steps]
  sorted := by simp [steps']
  next := by simp [steps']

namespace Agree

variable {s : MemoryStore} {t : Tables} {id : Uuid} {row row' : ExecutionRow}

theorem absent (h : Agree ρ s t) (none : s.executions.find? id = none) : t.executions.filter (·.id = ρ id) = [] := by
  have both := h.executions id
  rw [none] at both
  simpa using both

theorem present (h : Agree ρ s t) (found : s.executions.find? id = some row) :
    ∃ row', t.executions.filter (·.id = ρ id) = [row'] ∧ row.SameAs ρ row' := by
  have both := h.executions id
  rw [found] at both
  obtain ⟨row', rest, same, none, eq⟩ := List.forall₂_cons_left_iff.mp both
  cases none
  exact ⟨row', eq, same⟩

/-- A new execution is added to both. -/
theorem insertExecution (h : Agree ρ s t) (none : s.executions.find? row.id = none) (same : row.SameAs ρ row') :
    Agree ρ { s with executions := s.executions.put row.id row } { t with executions := t.executions ++ [row'] } where
  toSameWorkflows := ⟨h.workflows, h.nodes, h.edges⟩
  executions other := by
    rw [List.filter_append]
    by_cases own : other = row.id
    · subst own
      rw [Table.find?_put_self, h.absent none]
      simp [same.id, same]
    · rw [Table.find?_put_ne _ _ own]
      have differs : ρ row.id ≠ ρ other := fun eq => own (ρ.injective eq).symm
      simpa [same.id, differs] using h.executions other
  steps := h.steps
  sorted := h.sorted
  next := h.next

/-- An execution that is in a given state is changed in both. -/
theorem update (h : Agree ρ s t) (found : s.executions.find? id = some row) {status : String}
    (state : row.status = status) (change : ExecutionRow → ExecutionRow) (own : ∀ row, (change row).id = row.id)
    (keeps : ∀ row row', row.SameAs ρ row' → (change row).SameAs ρ (change row')) :
    ∃ t', t.updateExecutions (fun row => row.id = ρ id ∧ row.status = status) change = (1, t') ∧
      t'.existing = t.existing ∧ Agree ρ { s with executions := s.executions.put id (change row) } t' := by
  obtain ⟨row', eq, same⟩ := h.present found
  have state' : row'.status = status := same.status.trans state
  have count : (t.updateExecutions (fun row => row.id = ρ id ∧ row.status = status) change).1 = _ :=
    Tables.updateExecutions_count
  rw [eq, List.countP_singleton, if_pos (by simp [state'])] at count
  refine ⟨_, Prod.ext count rfl, rfl, ?_⟩
  exact {
    toSameWorkflows := ⟨h.workflows, h.nodes, h.edges⟩
    executions := by
      intro other
      by_cases this : other = id
      · subst this
        rw [Tables.updateExecutions_self own, eq, Table.find?_put_self]
        simpa [state'] using keeps _ _ same
      · have differs : ρ other ≠ ρ id := fun eq => this (ρ.injective eq)
        rw [Tables.updateExecutions_other own differs, Table.find?_put_ne _ _ this]
        exact h.executions other
    steps := h.steps
    sorted := h.sorted
    next := h.next }

/-- An execution that is not there, or in another state, is not changed. -/
theorem update_none (h : Agree ρ s t) {status : String}
    (other : ∀ row, s.executions.find? id = some row → row.status ≠ status) (change : ExecutionRow → ExecutionRow) :
    t.updateExecutions (fun row => row.id = ρ id ∧ row.status = status) change = (0, t) := by
  apply Tables.updateExecutions_none
  cases found : s.executions.find? id with
  | none => simp [h.absent found]
  | some row =>
      obtain ⟨row', eq, same⟩ := h.present found
      rw [eq, List.forall_mem_singleton, same.status]
      exact other row found

/-- A step is recorded in both. -/
theorem insertStep (h : Agree ρ s t) (step : StepRow) :
    Agree ρ { s with steps := s.steps.put step.executionId (s.stepsOf step.executionId ++ [step]) }
      { t with steps := t.steps ++ [⟨step.renamed ρ, t.nextStep⟩], nextStep := t.nextStep + 1 } where
  toSameWorkflows := ⟨h.workflows, h.nodes, h.edges⟩
  executions := h.executions
  steps other := by
    rw [List.filter_append, List.map_append, h.steps other]
    by_cases own : other = step.executionId
    · subst own
      simp [MemoryStore.stepsOf, StepRow.renamed]
    · have differs : ρ step.executionId ≠ ρ other := fun eq => own (ρ.injective eq).symm
      simp [MemoryStore.stepsOf, StepRow.renamed, differs, Table.find?_put_ne _ _ own]
  sorted := (Tables.Ordered.withStep ⟨h.sorted, h.next⟩ _).sorted
  next := (Tables.Ordered.withStep ⟨h.sorted, h.next⟩ _).next

/-- A step whose id is new in memory has an id that is new in the tables. -/
theorem fresh_step (h : Agree ρ s t) {step : StepRow} (fresh : ∀ id, ∀ other ∈ s.stepsOf id, other.id ≠ step.id) :
    t.steps.any (fun p => p.row.id = step.id) = false := by
  rw [List.any_eq_false]
  intro p member
  -- Every step in the tables is one of the execution that its own execution corresponds to.
  have filed : p ∈ t.steps.filter (·.row.executionId = ρ (ρ.symm p.row.executionId)) := by
    simp [member]
  have listed := List.mem_map_of_mem (f := fun p => p.row) filed
  rw [h.steps] at listed
  obtain ⟨other, recorded, eq⟩ := List.mem_map.mp listed
  have differs := fresh _ other recorded
  have same : p.row.id = other.id := (congrArg StepRow.id eq).symm
  simpa [same] using differs

end Agree

/-! ## Single calls -/

/-- A call is, for a server, one statement about a table of the schema. -/
structure Server.Sends (v : Server) (stamp : Stamp) (call : StoreCall) (statement : Statement)
    (use : statement.Result → StoreReply call) (table : TableName) : Prop where
  asks : Server.answer stamp call v = v.performFor statement use
  needs : statement.kind.table? = some table
  known : table ∈ Tables.schema
  taken : v.columns.Takes statement.bound

/-- What one call to both stores comes to. -/
structure Answered (ρ : Equiv.Perm Uuid) (s : MemoryStore) (v : Server) (call : StoreCall) (fresh : Uuid)
    (now now' : Instant) : Prop where
  told : Told ρ s call (MemoryStore.answer ⟨fresh, now⟩ call s).1
    (Server.answer ⟨ρ fresh, now'⟩ (call.renamed ρ) v).1
  ready : (Server.answer ⟨ρ fresh, now'⟩ (call.renamed ρ) v).2.Ready
  agree : Agree ρ (MemoryStore.answer ⟨fresh, now⟩ call s).2 (Server.answer ⟨ρ fresh, now'⟩ (call.renamed ρ) v).2.tables

namespace Answered

variable {s s' : MemoryStore} {v : Server} {id fresh : Uuid} {now now' : Instant}

/-- A call is answered by one statement, which a ready server executes. -/
theorem of_statement {call : StoreCall} {reply : StoreReply call} {tables : Tables} {table : TableName}
    (ready : v.Ready) (statement : Statement) (use : statement.Result → StoreReply (call.renamed ρ))
    (sends : v.Sends ⟨ρ fresh, now'⟩ (call.renamed ρ) statement use table) {result : statement.Result}
    (memory : MemoryStore.answer ⟨fresh, now⟩ call s = (reply, s'))
    (executes : v.tables.executeOn v.columns statement = .ok (result, tables))
    (existing : tables.existing = v.tables.existing) (told : Told ρ s call reply (use result))
    (agree : Agree ρ s' tables) : Answered ρ s v call fresh now now' := by
  obtain ⟨v', performed, stored, same⟩ := Server.performFor_calm (fun n => ready.calm _ n)
    (ready.existing table sends.known) use executes sends.needs sends.taken
  have asks := sends.asks
  rw [performed] at asks
  constructor
  · rw [asks, memory]
    exact told
  · rw [asks]
    constructor
    · rw [same.faults]
      exact ready.calm
    · rw [stored, existing]
      exact ready.existing
  · rw [asks, memory, stored]
    exact agree

/-- A call that only reads is answered by one statement that leaves the tables as they are. -/
theorem of_reading {call : StoreCall} {reply : StoreReply call} {table : TableName} (ready : v.Ready)
    (agree : Agree ρ s v.tables) (statement : Statement) (use : statement.Result → StoreReply (call.renamed ρ))
    (sends : v.Sends ⟨ρ fresh, now'⟩ (call.renamed ρ) statement use table) {result : statement.Result}
    (memory : MemoryStore.answer ⟨fresh, now⟩ call s = (reply, s))
    (executes : v.tables.executeOn v.columns statement = .ok (result, v.tables))
    (notStart : (call.method == .markRunning) = false) (same : ReplyAlike ρ call reply (use result)) :
    Answered ρ s v call fresh now now' :=
  of_statement ready statement use sends memory executes rfl (.other notStart same) agree

theorem getWorkflow (ready : v.Ready) (agree : Agree ρ s v.tables) :
    Answered ρ s v (.getWorkflow id) fresh now now' := by
  refine of_reading ready agree (.selectWorkflow id) Server.firstRow ⟨rfl, rfl, by decide, Columns.takes_nil⟩
    rfl rfl rfl ?_
  rw [agree.workflows]
  cases s.workflows.find? id with
  | none => exact .failed _
  | some row => exact .workflow row

theorem listNodes (ready : v.Ready) (agree : Agree ρ s v.tables) :
    Answered ρ s v (.listNodes id) fresh now now' := by
  refine of_reading ready agree (.selectNodes id) .ok ⟨rfl, rfl, by decide, Columns.takes_nil⟩ rfl rfl rfl ?_
  rw [agree.nodes]
  exact .nodes _

theorem listEdges (ready : v.Ready) (agree : Agree ρ s v.tables) :
    Answered ρ s v (.listEdges id) fresh now now' := by
  refine of_reading ready agree (.selectEdges id) .ok ⟨rfl, rfl, by decide, Columns.takes_nil⟩ rfl rfl rfl ?_
  rw [agree.edges]
  exact .edges _

theorem listSteps (ready : v.Ready) (agree : Agree ρ s v.tables) :
    Answered ρ s v (.listSteps id) fresh now now' := by
  refine of_reading ready agree (.selectSteps (ρ id)) .ok ⟨rfl, rfl, by decide, Columns.takes_nil⟩ rfl rfl rfl ?_
  rw [Tables.inOrder_eq (agree.sorted.filter _), agree.steps]
  exact .steps _

theorem getExecution (ready : v.Ready) (agree : Agree ρ s v.tables) :
    Answered ρ s v (.getExecution id) fresh now now' := by
  refine of_reading ready agree (.selectExecution (ρ id)) Server.firstRow ⟨rfl, rfl, by decide, Columns.takes_nil⟩
    rfl rfl rfl ?_
  cases found : s.executions.find? id with
  | none =>
      rw [agree.absent found]
      exact .failed _
  | some row =>
      obtain ⟨row', eq, same⟩ := agree.present found
      rw [eq]
      exact .found same

theorem createExecution (ready : v.Ready) (agree : Agree ρ s v.tables) {workflowId : Uuid} {payload : Json}
    (kept : v.columns.Keeps (.json payload)) (stored : s.workflows.find? workflowId ≠ none)
    (free : s.executions.find? fresh = none) :
    Answered ρ s v (.createExecution workflowId payload) fresh now now' := by
  have unused : v.tables.hasExecution (ρ fresh) = false := by
    rw [Bool.eq_false_iff, ne_eq, Tables.hasExecution_iff, agree.absent free]
    simp
  have known : v.tables.hasWorkflow workflowId = true := by
    rw [Tables.hasWorkflow_iff, agree.workflows]
    simpa using stored
  have read : v.columns.execution (.new (ρ fresh) workflowId payload now') =
      .new (ρ fresh) workflowId payload now' := congrArg ({ ExecutionRow.new (ρ fresh) workflowId payload now' with
        payload := · }) kept.2
  have executes : v.tables.executeOn v.columns (.insertExecution (.new (ρ fresh) workflowId payload now')) =
      .ok (.new (ρ fresh) workflowId payload now', { v.tables with
        executions := v.tables.executions ++ [.new (ρ fresh) workflowId payload now'] }) := by
    simp only [Tables.executeOn, read]
    simp only [ExecutionRow.new, unused, known]
    rfl
  have same : (ExecutionRow.new fresh workflowId payload now).SameAs ρ (.new (ρ fresh) workflowId payload now') :=
    ⟨now', rfl⟩
  exact of_statement ready _ _ ⟨rfl, rfl, by decide, Columns.takes_singleton.mpr kept.taken⟩ rfl executes rfl
    (.other rfl (.created same)) (agree.insertExecution free same)

theorem insertStep (ready : v.Ready) (agree : Agree ρ s v.tables) {step : StepRow}
    (kept : ∀ value ∈ (StoreCall.insertStep step).bound, v.columns.Keeps value)
    (stored : s.executions.find? step.executionId ≠ none)
    (free : ∀ id, ∀ other ∈ s.stepsOf id, other.id ≠ step.id) :
    Answered ρ s v (.insertStep step) fresh now now' := by
  obtain ⟨row, found⟩ := Option.ne_none_iff_exists'.mp stored
  have known : v.tables.hasExecution (ρ step.executionId) = true := by
    obtain ⟨row', eq, -⟩ := agree.present found
    rw [Tables.hasExecution_iff, eq]
    simp
  have read : v.columns.step (step.renamed ρ) = step.renamed ρ := congrArg (·.renamed ρ) (Columns.step_of_keeps kept)
  have executes : v.tables.executeOn v.columns (.insertStep (step.renamed ρ)) = .ok ((), { v.tables with
      steps := v.tables.steps ++ [⟨step.renamed ρ, v.tables.nextStep⟩], nextStep := v.tables.nextStep + 1 }) := by
    have unused : v.tables.steps.any (fun p => p.row.id = (step.renamed ρ).id) = false := agree.fresh_step free
    have known : v.tables.hasExecution (step.renamed ρ).executionId = true := known
    simp only [Tables.executeOn, unused, known, read]
    rfl
  have memory : MemoryStore.answer ⟨fresh, now⟩ (.insertStep step) s = (.ok (), { s with
      steps := s.steps.put step.executionId (s.stepsOf step.executionId ++ [step]) }) := by
    simp only [MemoryStore.answer, found]
  exact of_statement ready _ _ ⟨rfl, rfl, by decide, Columns.takes_of_keeps kept⟩ memory executes rfl
    (.other rfl .recorded) (agree.insertStep step)

theorem markRunning (ready : v.Ready) (agree : Agree ρ s v.tables) {startedAt : Instant} :
    Answered ρ s v (.markRunning id startedAt) fresh now now' := by
  let started (row : ExecutionRow) : ExecutionRow := { row with status := "running", startedAt := some startedAt }
  have known {row : ExecutionRow} (found : s.executions.find? id = some row) (other : Uuid) (time : Instant)
      (same : StoreCall.markRunning id startedAt = .markRunning other time) : s.executions.find? other ≠ none := by
    cases same
    simp [found]
  by_cases pending : ∃ row, s.executions.find? id = some row ∧ row.status = "pending"
  · obtain ⟨row, found, pending⟩ := pending
    obtain ⟨tables, executes, existing, agree⟩ := agree.update found pending started (fun _ => rfl) (by
      rintro row _ ⟨createdAt, rfl⟩
      exact ⟨createdAt, rfl⟩)
    have memory : MemoryStore.answer ⟨fresh, now⟩ (.markRunning id startedAt) s = (.ok true, { s with
        executions := s.executions.put id (started row) }) := by
      simp only [MemoryStore.answer, found, pending, if_true, started]
    exact of_statement ready (.startExecution (ρ id) startedAt) _ ⟨rfl, rfl, by decide, Columns.takes_nil⟩ memory
      (congrArg Except.ok executes) existing (.alike (known found) (.marked true)) agree
  · have executes := agree.update_none (fun row found state => pending ⟨row, found, state⟩) started
    cases found : s.executions.find? id with
    | none =>
        have memory : MemoryStore.answer ⟨fresh, now⟩ (.markRunning id startedAt) s = (.error .notFound, s) := by
          simp only [MemoryStore.answer, found]
        exact of_statement ready (.startExecution (ρ id) startedAt) _ ⟨rfl, rfl, by decide, Columns.takes_nil⟩ memory
          (congrArg Except.ok executes) rfl (.unknown found) agree
    | some row =>
        have memory : MemoryStore.answer ⟨fresh, now⟩ (.markRunning id startedAt) s = (.ok false, s) := by
          have state : row.status ≠ "pending" := fun state => pending ⟨row, found, state⟩
          simp only [MemoryStore.answer, found, state, if_false]
        exact of_statement ready (.startExecution (ρ id) startedAt) _ ⟨rfl, rfl, by decide, Columns.takes_nil⟩ memory
          (congrArg Except.ok executes) rfl (.alike (known found) (.marked false)) agree

theorem finishExecution (ready : v.Ready) (agree : Agree ρ s v.tables) {f : Finish}
    (kept : ∀ value ∈ (StoreCall.finishExecution id f).bound, v.columns.Keeps value) :
    Answered ρ s v (.finishExecution id f) fresh now now' := by
  have taken : v.columns.Takes (Statement.finishExecution (ρ id) f).bound := Columns.takes_of_keeps kept
  by_cases running : ∃ row, s.executions.find? id = some row ∧ row.status = "running"
  · obtain ⟨row, found, running⟩ := running
    obtain ⟨tables, executes, existing, agree⟩ := agree.update found running (·.finished f) (fun _ => rfl) (by
      rintro row _ ⟨createdAt, rfl⟩
      exact ⟨createdAt, rfl⟩)
    have memory : MemoryStore.answer ⟨fresh, now⟩ (.finishExecution id f) s = (.ok (), { s with
        executions := s.executions.put id (row.finished f) }) := by
      simp only [MemoryStore.answer, found, running, if_true]
    exact of_statement ready (.finishExecution (ρ id) f) _ ⟨rfl, rfl, by decide, taken⟩ memory
      (congrArg Except.ok executes) existing (.other rfl .finished) agree
  · have executes := agree.update_none (fun row found state => running ⟨row, found, state⟩) (·.finished f)
    have memory : MemoryStore.answer ⟨fresh, now⟩ (.finishExecution id f) s = (.error .notFound, s) := by
      cases found : s.executions.find? id with
      | none => simp only [MemoryStore.answer, found]
      | some row =>
          have state : row.status ≠ "running" := fun state => running ⟨row, found, state⟩
          simp only [MemoryStore.answer, found, state, if_false]
    exact of_statement ready (.finishExecution (ρ id) f) _ ⟨rfl, rfl, by decide, taken⟩ memory
      (congrArg Except.ok executes) rfl (.other rfl (.failed .notFound)) agree

end Answered

/-- The stores differ on what columns do not keep: a new execution is told alike just if its payload is kept. -/
theorem createExecution_alike_iff {s : MemoryStore} {v : Server} (ready : v.Ready) (agree : Agree ρ s v.tables)
    {workflowId : Uuid} {payload : Json} (stored : s.workflows.find? workflowId ≠ none) {fresh : Uuid}
    (free : s.executions.find? fresh = none) (now now' : Instant) :
    ReplyAlike ρ (.createExecution workflowId payload)
        (MemoryStore.answer ⟨fresh, now⟩ (.createExecution workflowId payload) s).1
        (Server.answer ⟨ρ fresh, now'⟩ (.createExecution workflowId payload) v).1 ↔
      v.columns.Keeps (.json payload) := by
  constructor
  · intro alike
    have sent := Server.performFor_sent (.insertExecution (.new (ρ fresh) workflowId payload now')) .ok v
    change Server.Sent _ _ v (Server.answer ⟨ρ fresh, now'⟩ (.createExecution workflowId payload) v) at sent
    generalize Server.answer ⟨ρ fresh, now'⟩ (.createExecution workflowId payload) v = outcome at alike sent
    cases sent with
    | refused => cases alike
    | executed executes taken =>
        obtain ⟨-, eq⟩ := Tables.checkKeys_bind.1 executes
        obtain rfl : v.columns.execution (.new (ρ fresh) workflowId payload now') = _ := congrArg Prod.fst eq
        cases alike with
        | created same =>
            obtain ⟨createdAt, same⟩ := same
            exact ⟨Columns.takes_singleton.mp taken, congrArg ExecutionRow.payload same⟩
  · intro kept
    have answered : Answered ρ s v (.createExecution workflowId payload) fresh now now' :=
      .createExecution ready agree kept stored free
    cases answered.told with
    | alike known same => exact same

/-! ## Sequences of calls -/

theorem PairedCall.answered {s : MemoryStore} {v : Server} {c : PairedCall} (ready : v.Ready)
    (agree : Agree ρ s v.tables) (proper : c.Proper v.columns s) : Answered ρ s v c.call c.id c.now c.now' := by
  obtain ⟨call, id, now, now'⟩ := c
  obtain ⟨kept, adds⟩ := proper
  cases call with
  | createExecution => exact .createExecution ready agree (kept _ (List.mem_singleton_self _)) adds.1 adds.2
  | getExecution => exact .getExecution ready agree
  | markRunning => exact .markRunning ready agree
  | finishExecution => exact .finishExecution ready agree kept
  | getWorkflow => exact .getWorkflow ready agree
  | listNodes => exact .listNodes ready agree
  | listEdges => exact .listEdges ready agree
  | insertStep => exact .insertStep ready agree kept adds.1 adds.2
  | listSteps => exact .listSteps ready agree

/-- Two stores that hold the same answer any sequence of calls alike, call by call, up to the ids of new executions and
the times of creation, where what is added is new and belongs to something that is there, and where the columns of the
server keep the values that are written.  The one exception is a start of an execution that is not there, which the
store in memory calls an error and the server calls lost. -/
theorem answered_alike {s : MemoryStore} {v : Server} (ready : v.Ready) (agree : Agree ρ s v.tables)
    (calls : List PairedCall) (proper : AllProper v.columns calls s) : ToldAlike ρ calls s v := by
  induction calls generalizing s v with
  | nil => trivial
  | cons c rest ih =>
      have answered := c.answered ready agree proper.1
      have columns : (c.onServer ρ v).2.columns = v.columns := Server.answer_columns _
      exact ⟨answered.told, ih answered.ready answered.agree (columns ▸ proper.2)⟩

/-- A server that holds the sample workflow. -/
def messageServer : Server :=
  .ofTables .verbatim { Tables.empty with
    workflows := [messageRows.workflow]
    nodes := messageRows.nodes.zipIdx.map fun (n, i) => ⟨n, i⟩
    edges := messageRows.edges.zipIdx.map fun (e, i) => ⟨e, i⟩ }

theorem messageServer_same : SameWorkflows (MemoryStore.empty.putWorkflow messageRows) messageServer.tables where
  workflows id := by
    by_cases own : id = .nil
    · subst own
      rfl
    · have absent : (MemoryStore.empty.putWorkflow messageRows).workflows.find? id = none := Table.find?_put_ne _ _ own
      rw [absent]
      simp [messageServer, Server.ofTables, messageRows, Ne.symm own]
  nodes id := by
    rw [Tables.inOrder_eq (List.Pairwise.filter _ (by decide))]
    by_cases own : id = .nil
    · subst own
      rfl
    · have absent : (MemoryStore.empty.putWorkflow messageRows).nodes.find? id = none := Table.find?_put_ne _ _ own
      rw [absent]
      simp [messageServer, Server.ofTables, messageRows, Ne.symm own]
  edges id := by
    rw [Tables.inOrder_eq (List.Pairwise.filter _ (by decide))]
    by_cases own : id = .nil
    · subst own
      rfl
    · have absent : (MemoryStore.empty.putWorkflow messageRows).edges.find? id = none := Table.find?_put_ne _ _ own
      rw [absent]
      simp [messageServer, Server.ofTables, messageRows, Ne.symm own]

/-- The life of an execution, and the start of one that is not there. -/
def messageCalls : List PairedCall :=
  [⟨.createExecution .nil .null, .ofNat 1, 0, 0⟩, ⟨.markRunning (.ofNat 1) 5, .nil, 5, 6⟩,
    ⟨.insertStep ⟨.ofNat 3, .ofNat 1, "start", "completed", .null, .null, none, 5, 5⟩, .nil, 5, 6⟩,
    ⟨.finishExecution (.ofNat 1) ⟨"completed", none, 6, 1⟩, .nil, 6, 7⟩, ⟨.listSteps (.ofNat 1), .nil, 6, 7⟩,
    ⟨.markRunning (.ofNat 9) 8, .nil, 8, 9⟩]

theorem answered_alike_message :
    ToldAlike (Equiv.swap (.ofNat 1) (.ofNat 2)) messageCalls (MemoryStore.empty.putWorkflow messageRows)
      messageServer := by
  have ready : messageServer.Ready := ⟨fun _ _ => rfl, by decide⟩
  have kept (value : BoundValue) : messageServer.columns.Keeps value := by
    cases value with
    | text => rfl
    | json => exact ⟨rfl, rfl⟩
  have proper : AllProper messageServer.columns messageCalls (MemoryStore.empty.putWorkflow messageRows) := by
    refine ⟨⟨fun value _ => kept value, nofun, rfl⟩, ⟨nofun, trivial⟩,
      ⟨fun value _ => kept value, nofun, fun id other recorded => ?_⟩, ⟨fun value _ => kept value, trivial⟩,
      ⟨nofun, trivial⟩, ⟨nofun, trivial⟩, trivial⟩
    cases recorded
  exact answered_alike ready (messageServer_same.agree rfl rfl rfl rfl) messageCalls proper

/-- A start of an execution that is not there is an error in memory, and lost on a server. -/
theorem unknown_start_differs :
    (MemoryStore.answer ⟨.nil, 0⟩ (.markRunning .nil 0) .empty).1 = .error .notFound ∧
      (Server.answer ⟨.nil, 0⟩ (.markRunning .nil 0) (.ofTables .verbatim .empty)).1 = .ok false := by
  constructor
  · rfl
  · rfl

end WorkflowEngine
