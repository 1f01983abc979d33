/-
Module: WorkflowEngine.Proofs.Saving
Layer: Proofs
Purpose: Saving a workflow on a server.  A transaction that fails leaves all tables as they were, wherever it fails;
  one that succeeds has executed all its statements.  A workflow that was saved is read back as it was written, where
  columns return what they take, and every other workflow as before (`saveWorkflow_whole`).  The constraints of the
  schema hold in every state that statements lead to (`Tables.applyAll_constrained`).
Imports: Mathlib.Data.List.Nodup, WorkflowEngine.Proofs.Statements
Trusted boundary: none
Main exports: Tables.applyAll, Server.transaction_ends, Tables.Constrained, Insertion, Tables.workflow?, Server.load,
  saveWorkflow_whole
-/
import Mathlib.Data.List.Nodup
import WorkflowEngine.Proofs.Statements

namespace WorkflowEngine

/-! ## Transactions -/

namespace Tables

/-- The tables after a statement. -/
def apply (c : Columns) (t : Tables) (statement : Statement) : Except Refusal Tables :=
  (t.execute c statement).map Prod.snd

/-- The tables after statements, one after another. -/
def applyAll (c : Columns) : List Statement → Tables → Except Refusal Tables
  | [], t => .ok t
  | statement :: rest, t =>
      match t.apply c statement with
      | .ok t => applyAll c rest t
      | .error r => .error r

variable {c : Columns}

/-- What every statement keeps, statements one after another keep. -/
theorem applyAll_keeps {P : Tables → Prop}
    (keeps : ∀ {statement : Statement} {t t' : Tables}, P t → t.apply c statement = .ok t' → P t')
    {statements : List Statement} {t t' : Tables} (h : P t) (applied : t.applyAll c statements = .ok t') : P t' := by
  induction statements generalizing t with
  | nil =>
      cases applied
      exact h
  | cons statement rest ih =>
      simp only [applyAll] at applied
      cases first : t.apply c statement with
      | error r =>
          rw [first] at applied
          cases applied
      | ok between =>
          rw [first] at applied
          exact ih (keeps h first) applied

theorem applyAll_append {first rest : List Statement} {t t' : Tables} :
    applyAll c (first ++ rest) t = .ok t' ↔
      ∃ between, applyAll c first t = .ok between ∧ applyAll c rest between = .ok t' := by
  induction first generalizing t with
  | nil => simp [applyAll]
  | cons statement first ih =>
      simp only [List.cons_append, applyAll]
      cases t.apply c statement with
      | error r => simp
      | ok t => exact ih

theorem apply_ok {statement : Statement} {t t' : Tables} :
    t.apply c statement = .ok t' ↔ ∃ result, t.execute c statement = .ok (result, t') := by
  rw [apply]
  cases t.execute c statement with
  | error r => simp [Except.map]
  | ok outcome =>
      obtain ⟨result, tables⟩ := outcome
      simp [Except.map]

end Tables

namespace Server

/-- Statements that all succeed were all executed. -/
theorem performAll_ok {statements : List Statement} {v v' : Server} (performed : v.performAll statements = (.ok (), v')) :
    v.tables.applyAll v.columns statements = .ok v'.tables := by
  induction statements generalizing v with
  | nil =>
      cases performed
      rfl
  | cons statement rest ih =>
      have outcome := perform_performed statement v
      simp only [performAll] at performed
      cases first : v.perform statement with
      | mk reply between =>
          rw [first] at performed outcome
          cases outcome with
          | refused => cases performed
          | executed executes stored same =>
              rw [Tables.applyAll, Tables.apply_ok.2 ⟨_, executes⟩, ← stored, ← same.columns]
              exact ih performed

/-- Where nothing is refused without reason, statements succeed if they can be executed. -/
theorem performAll_calm {statements : List Statement} {v : Server} {t : Tables} (calm : ∀ what n, v.faults what n = none)
    (executes : v.tables.applyAll v.columns statements = .ok t) :
    ∃ v', v.performAll statements = (.ok (), v') ∧ v.Alike v' := by
  induction statements generalizing v with
  | nil => exact ⟨v, rfl, .refl v⟩
  | cons statement rest ih =>
      simp only [Tables.applyAll] at executes
      cases first : v.tables.execute v.columns statement with
      | error r =>
          simp only [Tables.apply, first] at executes
          cases executes
      | ok outcome =>
          obtain ⟨result, tables⟩ := outcome
          obtain ⟨between, performed, stored, same⟩ := perform_calm (fun n => calm _ n) first
          rw [Tables.apply_ok.2 ⟨_, first⟩, ← stored, ← same.columns] at executes
          obtain ⟨v', rest, same'⟩ := ih (same.faults ▸ calm) executes
          refine ⟨v', ?_, same.trans same'⟩
          simp only [performAll, performed, rest]

/-- How a transaction ends. -/
inductive TransactionEnds (statements : List Statement) (v : Server) : Except DatabaseFault Unit → Server → Prop where
  | done {v' : Server} (applied : v.tables.applyAll v.columns statements = .ok v'.tables) :
      TransactionEnds statements v (.ok ()) v'
  | undone {f : DatabaseFault} {v' : Server} (stored : v'.tables = v.tables) :
      TransactionEnds statements v (.error f) v'

/-- A transaction that fails, wherever it fails, leaves all tables as they were; one that succeeds has executed all its
statements. -/
theorem transaction_ends (statements : List Statement) (v : Server) :
    TransactionEnds statements v (v.transaction statements).1 (v.transaction statements).2 := by
  unfold transaction begin ask
  cases v.faults .begin (v.history.count .begin) with
  | some r => exact .undone rfl
  | none =>
      simp only
      generalize begun : ({ v with history := .begin :: v.history } : Server).write .begun = v₁
      have same : v₁.tables = v.tables ∧ v₁.columns = v.columns := by
        rw [← begun]
        exact ⟨rfl, rfl⟩
      cases performed : v₁.performAll statements with
      | mk result v₂ =>
          cases result with
          | error f => exact .undone rfl
          | ok =>
              simp only [commit, ask]
              cases v₂.faults .commit (v₂.history.count .commit) with
              | some r => exact .undone rfl
              | none =>
                  have applied := performAll_ok performed
                  rw [same.1, same.2] at applied
                  exact .done applied

/-- Where nothing is refused without reason, a transaction whose statements can be executed succeeds. -/
theorem transaction_calm {statements : List Statement} {v : Server} {t : Tables}
    (calm : ∀ what n, v.faults what n = none) (applied : v.tables.applyAll v.columns statements = .ok t) :
    (v.transaction statements).1 = .ok () := by
  unfold transaction begin ask
  rw [calm]
  simp only
  generalize begun : ({ v with history := .begin :: v.history } : Server).write .begun = v₁
  have faults₁ : v₁.faults = v.faults := by
    rw [← begun]
    rfl
  have applied₁ : v₁.tables.applyAll v₁.columns statements = .ok t := by
    rw [← begun]
    exact applied
  obtain ⟨v₂, performed, same⟩ := performAll_calm (faults₁ ▸ calm) applied₁
  simp only [performed, commit, ask, same.faults, faults₁, calm]

end Server

/-! ## Constraints -/

namespace Tables

/-- The constraints of the schema: keys are unique, and rows that are referred to exist. -/
structure Constrained (t : Tables) : Prop where
  workflowKey : (t.workflows.map (·.id)).Nodup
  nodeKey : (t.nodes.map fun n => (n.row.workflowId, n.row.id)).Nodup
  edgeKey : (t.edges.map fun e => (e.row.workflowId, e.row.id)).Nodup
  executionKey : (t.executions.map (·.id)).Nodup
  stepKey : (t.steps.map (·.row.id)).Nodup
  nodeWorkflow : t.nodes.map (·.row.workflowId) ⊆ t.workflows.map (·.id)
  edgeWorkflow : t.edges.map (·.row.workflowId) ⊆ t.workflows.map (·.id)
  executionWorkflow : t.executions.map (·.workflowId) ⊆ t.workflows.map (·.id)
  stepExecution : t.steps.map (·.row.executionId) ⊆ t.executions.map (·.id)

variable {c : Columns} {t t' : Tables}

theorem hasWorkflow_eq {id : Uuid} : t.hasWorkflow id = true ↔ id ∈ t.workflows.map (·.id) := by
  simp only [hasWorkflow, List.any_eq_true, decide_eq_true_eq, List.mem_map]

theorem hasExecution_eq {id : Uuid} : t.hasExecution id = true ↔ id ∈ t.executions.map (·.id) := by
  simp only [hasExecution, List.any_eq_true, decide_eq_true_eq, List.mem_map]

/-- A key of two columns is free if no row has both values. -/
theorem free_pair {α : Type} {rows : List α} {column : α → Uuid} {column' : α → String} {a : Uuid} {b : String} :
    (rows.any fun row => column row = a ∧ column' row = b) = false ↔
      (a, b) ∉ rows.map fun row => (column row, column' row) := by
  simp

theorem nodup_snoc {α κ : Type} {key : α → κ} {rows : List α} {row : α} (nodup : (rows.map key).Nodup)
    (free : key row ∉ rows.map key) : ((rows ++ [row]).map key).Nodup := by
  rw [List.map_append, List.map_singleton, ← List.concat_eq_append]
  exact nodup.concat free

theorem snoc_subset {α κ : Type} {refers : α → κ} {rows : List α} {row : α} {known : List κ}
    (refer : rows.map refers ⊆ known) (owned : refers row ∈ known) : (rows ++ [row]).map refers ⊆ known := by
  rw [List.map_append, List.map_singleton]
  exact List.append_subset.2 ⟨refer, by simpa using owned⟩

theorem subset_snoc {α κ : Type} {key : α → κ} {rows : List α} {row : α} {used : List κ}
    (refer : used ⊆ rows.map key) : used ⊆ (rows ++ [row]).map key := by
  rw [List.map_append]
  exact List.subset_append_of_subset_left _ refer

/-- An update keeps what its change keeps of each row. -/
theorem updateExecutions_map {κ : Type} {selects : ExecutionRow → Bool} {change : ExecutionRow → ExecutionRow}
    (field : ExecutionRow → κ) (keeps : ∀ row, field (change row) = field row) :
    (t.updateExecutions selects change).2.executions.map field = t.executions.map field := by
  rw [updateExecutions, List.map_map]
  apply List.map_congr_left
  intro row _
  by_cases selected : selects row <;> simp [selected, keeps]

theorem Constrained.of_update (h : t.Constrained) {selects : ExecutionRow → Bool}
    {change : ExecutionRow → ExecutionRow} (id : ∀ row, (change row).id = row.id)
    (workflowId : ∀ row, (change row).workflowId = row.workflowId) :
    (t.updateExecutions selects change).2.Constrained where
  workflowKey := h.workflowKey
  nodeKey := h.nodeKey
  edgeKey := h.edgeKey
  executionKey := by
    rw [updateExecutions_map (·.id) id]
    exact h.executionKey
  stepKey := h.stepKey
  nodeWorkflow := h.nodeWorkflow
  edgeWorkflow := h.edgeWorkflow
  executionWorkflow := by
    rw [updateExecutions_map (·.workflowId) workflowId]
    exact h.executionWorkflow
  stepExecution := by
    rw [updateExecutions_map (·.id) id]
    exact h.stepExecution

/-- Statements keep the constraints. -/
theorem executeOn_constrained {statement : Statement} {result : statement.Result} (h : t.Constrained)
    (executes : t.executeOn c statement = .ok (result, t')) : t'.Constrained := by
  cases statement with
  | createTable table =>
      simp only [executeOn, Except.ok.injEq, Prod.mk.injEq, true_and] at executes
      subst executes
      split
      · exact h
      · exact { h with }
  | createIndex | selectWorkflow | selectNodes | selectEdges | selectExecution | selectSteps | selectUnfinished
    | selectMigrations | timeMigration =>
      cases executes
      exact h
  | insertMigration version =>
      obtain ⟨-, ⟨⟩⟩ := checkKeys_bind.1 executes
      exact { h with }
  | insertWorkflow row =>
      obtain ⟨checked, ⟨⟩⟩ := checkKeys_bind.1 executes
      obtain ⟨free, -⟩ := checkKeys_ok.1 checked
      exact {
        h with
        workflowKey := nodup_snoc h.workflowKey (by simpa [← hasWorkflow_eq] using free)
        nodeWorkflow := subset_snoc h.nodeWorkflow
        edgeWorkflow := subset_snoc h.edgeWorkflow
        executionWorkflow := subset_snoc h.executionWorkflow }
  | insertNode row position =>
      obtain ⟨checked, ⟨⟩⟩ := checkKeys_bind.1 executes
      obtain ⟨free, owned⟩ := checkKeys_ok.1 checked
      exact {
        h with
        nodeKey := nodup_snoc h.nodeKey (free_pair.1 free)
        nodeWorkflow := snoc_subset h.nodeWorkflow (hasWorkflow_eq.1 owned) }
  | insertEdge row position =>
      obtain ⟨checked, ⟨⟩⟩ := checkKeys_bind.1 executes
      obtain ⟨free, owned⟩ := checkKeys_ok.1 checked
      exact {
        h with
        edgeKey := nodup_snoc h.edgeKey (free_pair.1 free)
        edgeWorkflow := snoc_subset h.edgeWorkflow (hasWorkflow_eq.1 owned) }
  | insertExecution row =>
      obtain ⟨checked, ⟨⟩⟩ := checkKeys_bind.1 executes
      obtain ⟨free, owned⟩ := checkKeys_ok.1 checked
      exact {
        h with
        executionKey := nodup_snoc h.executionKey (by simpa [← hasExecution_eq] using free)
        executionWorkflow := snoc_subset h.executionWorkflow (hasWorkflow_eq.1 owned)
        stepExecution := subset_snoc h.stepExecution }
  | insertStep row =>
      obtain ⟨checked, ⟨⟩⟩ := checkKeys_bind.1 executes
      obtain ⟨free, owned⟩ := checkKeys_ok.1 checked
      exact {
        h with
        stepKey := nodup_snoc h.stepKey (by simpa using free)
        stepExecution := snoc_subset h.stepExecution (hasExecution_eq.1 owned) }
  | startExecution id startedAt =>
      cases executes
      exact h.of_update (fun _ => rfl) fun _ => rfl
  | finishExecution id finish =>
      cases executes
      exact h.of_update (fun _ => rfl) fun _ => rfl

theorem apply_constrained {statement : Statement} (h : t.Constrained) (applied : t.apply c statement = .ok t') :
    t'.Constrained := by
  obtain ⟨result, executes⟩ := apply_ok.1 applied
  exact executeOn_constrained h (executeOn_of_execute executes).2

theorem applyAll_constrained {statements : List Statement} (h : t.Constrained)
    (applied : t.applyAll c statements = .ok t') : t'.Constrained :=
  applyAll_keeps (fun h applied => apply_constrained h applied) h applied

/-- The constraints hold of a database without tables, and with that of whatever statements make of it. -/
theorem constrained_of_none {statements : List Statement} (applied : Tables.none.applyAll c statements = .ok t) :
    t.Constrained := by
  have none : Tables.none.Constrained := by constructor <;> simp [Tables.none]
  exact applyAll_constrained none applied

end Tables

/-! ## Insertions -/

/-- When a row is inserted. -/
theorem Tables.apply_insert {c : Columns} {t t' new : Tables} {statement : Statement} {result : statement.Result}
    {table : TableName} {inUse : Bool} {foreign : Option (String × Bool)}
    (inserts : t.executeOn c statement = (do checkKeys table inUse foreign; Except.ok (result, new)))
    (kind : statement.kind.table? = some table) :
    t.apply c statement = .ok t' ↔
      (table ∈ t.existing ∧ c.Takes statement.bound) ∧ (inUse = false ∧ foreign.all Prod.snd = true) ∧ t' = new := by
  rw [apply_ok]
  constructor
  · intro ⟨_, executes⟩
    have exist : table ∈ t.existing := by
      by_contra absent
      simp [execute, kind, absent] at executes
    obtain ⟨taken, executed⟩ := executeOn_of_execute executes
    rw [inserts, checkKeys_bind, checkKeys_ok] at executed
    obtain ⟨free, ⟨⟩⟩ := executed
    exact ⟨⟨exist, taken⟩, free, rfl⟩
  · rintro ⟨⟨exist, taken⟩, free, rfl⟩
    refine ⟨result, ?_⟩
    rw [execute_existing kind exist taken, inserts, checkKeys_bind, checkKeys_ok]
    exact ⟨free, rfl⟩

/-- How rows are inserted into a table: the statement and the key of a row, the keys in use, what a row needs besides a
free key, and the tables with a row more. -/
structure Insertion (c : Columns) (ρ κ : Type) where
  statement : ρ → Statement
  key : ρ → κ
  keys : Tables → List κ
  needs : Tables → ρ → Prop
  add : Tables → ρ → Tables
  keys_add : ∀ t row, keys (add t row) = keys t ++ [key row]
  needs_add : ∀ t row other, needs (add t row) other ↔ needs t other
  apply_ok : ∀ t row t', t.apply c (statement row) = .ok t' ↔ needs t row ∧ key row ∉ keys t ∧ t' = add t row

namespace Insertion

variable {c : Columns} {ρ κ : Type}

/-- Rows can be inserted one after another if each has what it needs, their keys differ and none is in use. -/
theorem applyAll_ok (i : Insertion c ρ κ) {rows : List ρ} {t t' : Tables} :
    t.applyAll c (rows.map i.statement) = .ok t' ↔
      (∀ row ∈ rows, i.needs t row ∧ i.key row ∉ i.keys t) ∧ (rows.map i.key).Nodup ∧ t' = rows.foldl i.add t := by
  induction rows generalizing t with
  | nil => simp [Tables.applyAll, eq_comm]
  | cons row rest ih =>
      simp only [List.map_cons, Tables.applyAll, List.forall_mem_cons, List.nodup_cons, List.foldl_cons]
      cases first : t.apply c (i.statement row) with
      | error r =>
          have refused : ¬ (i.needs t row ∧ i.key row ∉ i.keys t) := by
            intro ⟨needs, free⟩
            have inserted := (i.apply_ok t row _).2 ⟨needs, free, rfl⟩
            rw [first] at inserted
            cases inserted
          simp [refused]
      | ok between =>
          obtain ⟨needs, free, rfl⟩ := (i.apply_ok _ _ _).1 first
          have others : (∀ other ∈ rest, i.needs (i.add t row) other ∧ i.key other ∉ i.keys (i.add t row)) ↔
              (∀ other ∈ rest, i.needs t other ∧ i.key other ∉ i.keys t) ∧ i.key row ∉ rest.map i.key := by
            simp only [i.needs_add, i.keys_add, List.mem_append, List.mem_singleton, not_or, List.mem_map, not_exists,
              not_and]
            exact ⟨fun h => ⟨fun other m => ⟨(h other m).1, (h other m).2.1⟩, fun other m => (h other m).2.2⟩,
              fun h other m => ⟨(h.1 other m).1, (h.1 other m).2, h.2 other m⟩⟩
          simp only [ih, others, needs, free, not_false_eq_true, true_and, and_self, and_assoc]

/-- Inserting headers of workflows. -/
def workflows : Insertion c WorkflowRow Uuid where
  statement := .insertWorkflow
  key := (·.id)
  keys t := t.workflows.map (·.id)
  needs t row := .workflows ∈ t.existing ∧ c.Takes (Statement.insertWorkflow row).bound
  add t row := { t with workflows := t.workflows ++ [row] }
  keys_add := by simp
  needs_add := by simp
  apply_ok t row t' := by
    rw [Tables.apply_insert rfl rfl, ← Tables.hasWorkflow_eq]
    simp

/-- Inserting nodes with their positions. -/
def nodes : Insertion c (NodeRow × Nat) (Uuid × String) where
  statement row := .insertNode row.1 row.2
  key row := (row.1.workflowId, row.1.id)
  keys t := t.nodes.map fun n => (n.row.workflowId, n.row.id)
  needs t row := (.nodes ∈ t.existing ∧ c.Takes (Statement.insertNode row.1 row.2).bound) ∧
    row.1.workflowId ∈ t.workflows.map (·.id)
  add t row := { t with nodes := t.nodes ++ [⟨c.node row.1, row.2⟩] }
  keys_add := by simp
  needs_add := by simp
  apply_ok t row t' := by
    rw [Tables.apply_insert rfl rfl, Tables.free_pair, ← Tables.hasWorkflow_eq]
    simp only [Option.all_some, and_assoc, and_left_comm]

/-- Inserting edges with their positions. -/
def edges : Insertion c (EdgeRow × Nat) (Uuid × String) where
  statement row := .insertEdge row.1 row.2
  key row := (row.1.workflowId, row.1.id)
  keys t := t.edges.map fun e => (e.row.workflowId, e.row.id)
  needs t row := (.edges ∈ t.existing ∧ c.Takes (Statement.insertEdge row.1 row.2).bound) ∧
    row.1.workflowId ∈ t.workflows.map (·.id)
  add t row := { t with edges := t.edges ++ [⟨row.1, row.2⟩] }
  keys_add := by simp
  needs_add := by simp
  apply_ok t row t' := by
    rw [Tables.apply_insert rfl rfl, Tables.free_pair, ← Tables.hasWorkflow_eq]
    simp only [Option.all_some, and_assoc, and_left_comm]

theorem foldl_nodes (rows : List (NodeRow × Nat)) (t : Tables) :
    rows.foldl (nodes (c := c)).add t = { t with nodes := t.nodes ++ rows.map fun row => ⟨c.node row.1, row.2⟩ } := by
  induction rows generalizing t with
  | nil => simp
  | cons row rest ih =>
      rw [List.foldl_cons, ih]
      simp [nodes]

theorem foldl_edges (rows : List (EdgeRow × Nat)) (t : Tables) :
    rows.foldl (edges (c := c)).add t = { t with edges := t.edges ++ rows.map fun row => ⟨row.1, row.2⟩ } := by
  induction rows generalizing t with
  | nil => simp
  | cons row rest ih =>
      rw [List.foldl_cons, ih]
      simp [edges]

end Insertion

/-! ## Workflows in tables -/

/-- The nodes and edges belong to the workflow. -/
structure Rows.Owned (rows : Rows) : Prop where
  nodes : ∀ n ∈ rows.nodes, n.workflowId = rows.workflow.id
  edges : ∀ e ∈ rows.edges, e.workflowId = rows.workflow.id

theorem Definition.rows_owned (d : Definition) (now : Instant) : (d.rows now).Owned where
  nodes := by
    simp only [rows, List.forall_mem_map]
    exact fun _ _ => rfl
  edges := by
    simp only [rows, List.forall_mem_map]
    exact fun _ _ => rfl

/-- Rows as they are read. -/
def Columns.rows (c : Columns) (rows : Rows) : Rows := { rows with nodes := rows.nodes.map c.node }

/-- Rows belong to their workflow as they are read. -/
theorem Rows.Owned.read {rows : Rows} (owned : rows.Owned) (c : Columns) : (c.rows rows).Owned where
  nodes := by
    simp only [Columns.rows, List.forall_mem_map]
    exact owned.nodes
  edges := owned.edges

namespace Tables

/-- Rows with their positions. -/
def placed {α : Type} (rows : List α) : List (Placed α) := rows.zipIdx.map fun row => ⟨row.1, row.2⟩

/-- The tables with the rows of one more workflow, as they are read. -/
def holding (rows : Rows) (t : Tables) : Tables :=
  { t with
    workflows := t.workflows ++ [rows.workflow]
    nodes := t.nodes ++ placed rows.nodes
    edges := t.edges ++ placed rows.edges }

/-- The workflow that the tables hold under an id. -/
def workflow? (id : Uuid) (t : Tables) : Except StoreFault Workflow :=
  (Server.firstRow (t.workflows.filter (·.id = id))).map fun row =>
    .ofRows row (inOrder (t.nodes.filter (·.row.workflowId = id))) (inOrder (t.edges.filter (·.row.workflowId = id)))

section Select

variable {α : Type} {owner : α → Uuid} {stored : List (Placed α)} {rows : List α} {id other : Uuid}

/-- Rows come out in the order in which they were numbered. -/
theorem inOrder_placed : inOrder (placed rows) = rows := by
  have sorted : (placed rows).Pairwise fun a b => a.place ≤ b.place := by
    have numbers : (rows.zipIdx.map Prod.snd).Pairwise (· ≤ ·) := by
      rw [List.zipIdx_map_snd]
      exact List.pairwise_le_range'
    rw [List.pairwise_map] at numbers
    rw [placed, List.pairwise_map]
    exact numbers.imp Int.ofNat_le.2
  rw [inOrder_eq sorted, placed, List.map_map]
  exact List.zipIdx_map_fst 0 rows

theorem filter_placed_self (own : ∀ row ∈ rows, owner row = id) :
    (placed rows).filter (owner ·.row = id) = placed rows := by
  rw [List.filter_eq_self]
  simp only [placed, List.forall_mem_map, decide_eq_true_eq]
  exact fun row member => own _ (List.fst_mem_of_mem_zipIdx member)

theorem filter_placed_other (own : ∀ row ∈ rows, owner row = id) (differs : other ≠ id) :
    (placed rows).filter (owner ·.row = other) = [] := by
  rw [List.filter_eq_nil_iff]
  simp only [placed, List.forall_mem_map, decide_eq_true_eq]
  exact fun row member => (own _ (List.fst_mem_of_mem_zipIdx member)).trans_ne differs.symm

/-- The rows of a workflow that had none before are those that were inserted. -/
theorem select_self (own : ∀ row ∈ rows, owner row = id) (unused : id ∉ stored.map (owner ·.row)) :
    inOrder ((stored ++ placed rows).filter (owner ·.row = id)) = rows := by
  have before : stored.filter (owner ·.row = id) = [] := by
    simpa [List.filter_eq_nil_iff] using unused
  rw [List.filter_append, before, List.nil_append, filter_placed_self own, inOrder_placed]

theorem select_other (own : ∀ row ∈ rows, owner row = id) (differs : other ≠ id) :
    inOrder ((stored ++ placed rows).filter (owner ·.row = other)) =
      inOrder (stored.filter (owner ·.row = other)) := by
  rw [List.filter_append, filter_placed_other own differs, List.append_nil]

end Select

variable {t : Tables} {rows : Rows}

/-- A workflow with a new id is found as it was written. -/
theorem workflow?_self (h : t.Constrained) (owned : rows.Owned) (unused : rows.workflow.id ∉ t.workflows.map (·.id)) :
    (t.holding rows).workflow? rows.workflow.id = .ok rows.toWorkflow := by
  have header : (t.holding rows).workflows.filter (·.id = rows.workflow.id) = [rows.workflow] := by
    have before : t.workflows.filter (·.id = rows.workflow.id) = [] := by
      simpa [List.filter_eq_nil_iff] using unused
    simp [holding, List.filter_append, before]
  have nodes := select_self owned.nodes fun member => unused (h.nodeWorkflow member)
  have edges := select_self owned.edges fun member => unused (h.edgeWorkflow member)
  rw [workflow?, header]
  simp only [holding, nodes, edges]
  rfl

/-- Every other workflow is found as before. -/
theorem workflow?_other (owned : rows.Owned) {other : Uuid} (differs : other ≠ rows.workflow.id) :
    (t.holding rows).workflow? other = t.workflow? other := by
  have header : (t.holding rows).workflows.filter (·.id = other) = t.workflows.filter (·.id = other) := by
    simp [holding, List.filter_append, differs.symm]
  rw [workflow?, header]
  simp only [holding, select_other owned.nodes differs, select_other owned.edges differs]
  rfl

end Tables

/-! ## Saving -/

/-- The values of a workflow that are bound to columns. -/
def Rows.bound (rows : Rows) : List BoundValue := (Server.saveStatements rows).flatMap Statement.bound

/-- The values of a workflow are those of its header, its nodes and its edges. -/
theorem Columns.takes_rows {c : Columns} {rows : Rows} :
    c.Takes rows.bound ↔ c.Takes (Statement.insertWorkflow rows.workflow).bound ∧
      (∀ node ∈ rows.nodes.zipIdx, c.Takes (Statement.insertNode node.1 node.2).bound) ∧
        ∀ edge ∈ rows.edges.zipIdx, c.Takes (Statement.insertEdge edge.1 edge.2).bound := by
  simp only [Rows.bound, Takes, Server.saveStatements, List.flatMap_cons, List.flatMap_append, List.forall_mem_append,
    List.forall_mem_flatMap, List.forall_mem_map, and_assoc]

namespace Tables

variable {c : Columns} {t t' : Tables}

/-- What a definition needs to be saved: its id is free, and so are the ids of its nodes and edges among each other. -/
structure Admits (t : Tables) (rows : Rows) : Prop where
  unused : rows.workflow.id ∉ t.workflows.map (·.id)
  nodeIds : (rows.nodes.map (·.id)).Nodup
  edgeIds : (rows.edges.map (·.id)).Nodup

/-- The statements that save a workflow, table by table. -/
theorem applyAll_saveStatements {rows : Rows} :
    t.applyAll c (Server.saveStatements rows) = .ok t' ↔
      ∃ t₁ t₂, t.applyAll c ([rows.workflow].map (Insertion.workflows (c := c)).statement) = .ok t₁ ∧
        t₁.applyAll c (rows.nodes.zipIdx.map (Insertion.nodes (c := c)).statement) = .ok t₂ ∧
          t₂.applyAll c (rows.edges.zipIdx.map (Insertion.edges (c := c)).statement) = .ok t' := by
  have parts : Server.saveStatements rows = [rows.workflow].map (Insertion.workflows (c := c)).statement ++
      (rows.nodes.zipIdx.map (Insertion.nodes (c := c)).statement ++
        rows.edges.zipIdx.map (Insertion.edges (c := c)).statement) := rfl
  simp only [parts, applyAll_append, exists_and_left]

theorem holding_eq {rows : Rows} :
    rows.edges.zipIdx.foldl (Insertion.edges (c := c)).add (rows.nodes.zipIdx.foldl (Insertion.nodes (c := c)).add
      ([rows.workflow].foldl (Insertion.workflows (c := c)).add t)) = t.holding (c.rows rows) := by
  rw [Insertion.foldl_nodes, Insertion.foldl_edges, holding, Columns.rows, placed, List.zipIdx_map, List.map_map]
  rfl

/-- Statements that save a workflow find its id free, and insert its rows. -/
theorem holding_of_applyAll {rows : Rows} (applied : t.applyAll c (Server.saveStatements rows) = .ok t') :
    rows.workflow.id ∉ t.workflows.map (·.id) ∧ t' = t.holding (c.rows rows) := by
  obtain ⟨t₁, t₂, first, second, third⟩ := applyAll_saveStatements.1 applied
  obtain ⟨header, -, rfl⟩ := Insertion.workflows.applyAll_ok.1 first
  obtain ⟨-, -, rfl⟩ := Insertion.nodes.applyAll_ok.1 second
  obtain ⟨-, -, rfl⟩ := Insertion.edges.applyAll_ok.1 third
  exact ⟨(header _ (List.mem_singleton_self _)).2, holding_eq⟩

/-- Rows of one workflow have different keys if they have different ids. -/
theorem nodup_keys {α : Type} {owner : α → Uuid} {id : α → String} {rows : List α} {workflow : Uuid}
    (own : ∀ row ∈ rows, owner row = workflow) :
    (rows.zipIdx.map fun row => (owner row.1, id row.1)).Nodup ↔ (rows.map id).Nodup := by
  have keys : (rows.zipIdx.map fun row => (owner row.1, id row.1)) = (rows.map id).map (Prod.mk workflow) := by
    have unnumbered : (rows.zipIdx.map fun row => (owner row.1, id row.1)) =
        (rows.zipIdx.map Prod.fst).map fun row => (owner row, id row) := by
      rw [List.map_map]
      rfl
    rw [unnumbered, List.zipIdx_map_fst, List.map_map]
    exact List.map_congr_left fun row member => by rw [own row member]; rfl
  rw [keys]
  exact List.nodup_map_iff fun _ _ same => congrArg Prod.snd same

/-- A workflow without rows has all keys free. -/
theorem free_of_owner {α : Type} {owner : α → Uuid} {id : α → String} {rows : List α} {key : Uuid × String}
    (none : key.1 ∉ rows.map owner) : key ∉ rows.map fun row => (owner row, id row) := by
  intro used
  obtain ⟨row, member, rfl⟩ := List.mem_map.1 used
  exact none (List.mem_map_of_mem member)

/-- A definition that is admitted can be saved if its values are taken. -/
theorem applyAll_iff {rows : Rows} (h : t.Constrained) (owned : rows.Owned)
    (existing : ∀ table ∈ schema, table ∈ t.existing) :
    t.applyAll c (Server.saveStatements rows) = .ok (t.holding (c.rows rows)) ↔ t.Admits rows ∧ c.Takes rows.bound := by
  rw [Columns.takes_rows]
  constructor
  · intro applied
    obtain ⟨t₁, t₂, first, second, third⟩ := applyAll_saveStatements.1 applied
    obtain ⟨header, -, -⟩ := Insertion.workflows.applyAll_ok.1 first
    obtain ⟨nodes, nodeIds, -⟩ := Insertion.nodes.applyAll_ok.1 second
    obtain ⟨edges, edgeIds, -⟩ := Insertion.edges.applyAll_ok.1 third
    obtain ⟨⟨-, taken⟩, unused⟩ := header _ (List.mem_singleton_self _)
    exact ⟨⟨unused, (nodup_keys owned.nodes).1 nodeIds, (nodup_keys owned.edges).1 edgeIds⟩,
      taken, fun node member => (nodes node member).1.1.2, fun edge member => (edges edge member).1.1.2⟩
  · intro ⟨admits, header, nodes, edges⟩
    refine applyAll_saveStatements.2 ⟨_, _, Insertion.workflows.applyAll_ok.2 ⟨?_, List.nodup_singleton _, rfl⟩,
      Insertion.nodes.applyAll_ok.2 ⟨?_, (nodup_keys owned.nodes).2 admits.nodeIds, rfl⟩,
      Insertion.edges.applyAll_ok.2 ⟨?_, (nodup_keys owned.edges).2 admits.edgeIds, holding_eq.symm⟩⟩
    · intro _ member
      rw [List.mem_singleton.1 member]
      exact ⟨⟨existing _ (by decide), header⟩, admits.unused⟩
    · intro node member
      have owner : node.1.workflowId = rows.workflow.id := owned.nodes _ (List.fst_mem_of_mem_zipIdx member)
      have known : node.1.workflowId ∈ (t.workflows ++ [rows.workflow]).map (·.id) := by simp [owner]
      exact ⟨⟨⟨existing _ (by decide), nodes node member⟩, known⟩,
        free_of_owner fun used => admits.unused (h.nodeWorkflow (owner ▸ used))⟩
    · intro edge member
      have owner : edge.1.workflowId = rows.workflow.id := owned.edges _ (List.fst_mem_of_mem_zipIdx member)
      have known : edge.1.workflowId ∈ (t.workflows ++ [rows.workflow]).map (·.id) := by simp [owner]
      rw [Insertion.foldl_nodes]
      exact ⟨⟨⟨existing _ (by decide), edges edge member⟩, known⟩,
        free_of_owner fun used => admits.unused (h.edgeWorkflow (owner ▸ used))⟩

end Tables

namespace Server

/-- A server on which the tables of workflows can be read. -/
structure Readable (v : Server) : Prop where
  calm : ∀ table n, v.faults (.statement (.select table)) n = none
  existing : ∀ table ∈ Tables.schema, table ∈ v.tables.existing

/-- A statement that reads is answered from the tables, and leaves them readable. -/
theorem Readable.select {v : Server} (readable : v.Readable) (statement : Statement) {table : TableName} {α : Type}
    (use : statement.Result → Except StoreFault α) {result : statement.Result}
    (executes : v.tables.executeOn v.columns statement = .ok (result, v.tables))
    (kind : statement.kind = .select table) (known : table ∈ Tables.schema) :
    ∃ v', v.performFor statement use = (use result, v') ∧ v'.tables = v.tables ∧ v'.Readable := by
  have calm (n : Nat) : v.faults (.statement statement.kind) n = none := by
    rw [kind]
    exact readable.calm table n
  have needs : statement.kind.table? = some table := by rw [kind]; rfl
  have unbound : statement.bound = [] := by
    cases statement <;> first | rfl | cases kind
  obtain ⟨v', performed, stored, same⟩ := performFor_calm calm (readable.existing table known) use executes needs
    (unbound ▸ Columns.takes_nil)
  refine ⟨v', performed, stored, ?_⟩
  constructor
  · rw [same.faults]
    exact readable.calm
  · rw [stored]
    exact readable.existing

/-- Reads a workflow: its header, its nodes and its edges. -/
def load (stamp : Stamp) (id : Uuid) (v : Server) : Except StoreFault Workflow :=
  match v.answer stamp (.getWorkflow id) with
  | (.error f, _) => .error f
  | (.ok row, v) =>
      match v.answer stamp (.listNodes id) with
      | (.error f, _) => .error f
      | (.ok nodes, v) =>
          match v.answer stamp (.listEdges id) with
          | (.error f, _) => .error f
          | (.ok edges, _) => .ok (.ofRows row nodes edges)

/-- What is read is what the tables hold. -/
theorem load_eq {v : Server} (readable : v.Readable) (stamp : Stamp) (id : Uuid) :
    v.load stamp id = v.tables.workflow? id := by
  unfold load Tables.workflow?
  obtain ⟨v₁, header, stored₁, readable₁⟩ := readable.select (.selectWorkflow id) firstRow rfl rfl (by decide)
  have asked₁ : v.answer stamp (.getWorkflow id) = (_, v₁) := header
  rw [asked₁]
  cases firstRow (v.tables.workflows.filter (·.id = id)) with
  | error f => rfl
  | ok row =>
      obtain ⟨v₂, nodes, stored₂, readable₂⟩ := readable₁.select (.selectNodes id) .ok rfl rfl (by decide)
      obtain ⟨v₃, edges, -, -⟩ := readable₂.select (.selectEdges id) .ok rfl rfl (by decide)
      have asked₂ : v₁.answer stamp (.listNodes id) = (_, v₂) := nodes
      have asked₃ : v₂.answer stamp (.listEdges id) = (_, v₃) := edges
      simp only [asked₂, asked₃, stored₂, stored₁]
      rfl

/-- A workflow that is not saved leaves no trace. -/
theorem saveWorkflow_error {rows : Rows} {v v' : Server} {f : StoreFault}
    (failed : v.saveWorkflow rows = (.error f, v')) : v'.tables = v.tables := by
  have ends := v.transaction_ends (saveStatements rows)
  unfold saveWorkflow at failed
  cases outcome : v.transaction (saveStatements rows) with
  | mk result after =>
      rw [outcome] at failed ends
      cases ends with
      | done => cases failed
      | undone stored =>
          cases failed
          exact stored

/-- A workflow that is saved has had all its statements executed. -/
theorem saveWorkflow_ok {rows : Rows} {v v' : Server} (saved : v.saveWorkflow rows = (.ok (), v')) :
    v.tables.applyAll v.columns (saveStatements rows) = .ok v'.tables := by
  have ends := v.transaction_ends (saveStatements rows)
  unfold saveWorkflow at saved
  cases outcome : v.transaction (saveStatements rows) with
  | mk result after =>
      rw [outcome] at saved ends
      cases ends with
      | undone => cases saved
      | done applied =>
          cases saved
          exact applied

theorem saveWorkflow_calm {rows : Rows} {v : Server} {t : Tables} (calm : ∀ what n, v.faults what n = none)
    (applied : v.tables.applyAll v.columns (saveStatements rows) = .ok t) : (v.saveWorkflow rows).1 = .ok () := by
  simp only [saveWorkflow, transaction_calm calm applied]
  rfl

end Server

/-- Where the settings of a definition are read as they were written, so are its rows. -/
theorem Columns.rows_eq {c : Columns} {d : Definition} (returns : ∀ n ∈ d.nodes, c.read n.config = n.config)
    (now : Instant) : c.rows (d.rows now) = d.rows now := by
  have nodes : (d.rows now).nodes.map c.node = (d.rows now).nodes := by
    rw [Definition.rows, List.map_map]
    refine List.map_congr_left fun n member => ?_
    simp only [Function.comp_apply, node, NodeDefinition.row, returns n member]
  rw [rows, nodes]

/-- Saving a workflow, on a server in whatever state, either fails and leaves all tables as they were, or succeeds: the
tables then hold the rows of the workflow besides all others, the workflow is read back as it was written, with nodes and
edges in the order of the definition, and every other workflow as before, where columns return what they take.  A server
that refuses nothing without reason saves the definitions whose ids are free and whose values are taken, and those
only. -/
theorem saveWorkflow_whole (d : Definition) (now : Instant) (v : Server) (constrained : v.tables.Constrained)
    (returns : ∀ n ∈ d.nodes, v.columns.read n.config = n.config) :
    (∀ f v', v.saveWorkflow (d.rows now) = (.error f, v') → v'.tables = v.tables) ∧
      (∀ v', v.saveWorkflow (d.rows now) = (.ok (), v') →
        v'.tables = v.tables.holding (d.rows now) ∧ v'.tables.Constrained ∧
          (∀ id ≠ d.id, v'.tables.workflow? id = v.tables.workflow? id) ∧
            ∀ stamp, v'.Readable → v'.load stamp d.id = .ok d.toWorkflow ∧
              ∀ id ≠ d.id, v'.load stamp id = v.tables.workflow? id) ∧
        (v.Ready → ((v.saveWorkflow (d.rows now)).1 = .ok () ↔
          v.tables.Admits (d.rows now) ∧ v.columns.Takes (d.rows now).bound)) := by
  have owned := d.rows_owned now
  have same : v.columns.rows (d.rows now) = d.rows now := Columns.rows_eq returns now
  refine ⟨fun f v' => Server.saveWorkflow_error, ?_, ?_⟩
  · intro v' saved
    have applied := Server.saveWorkflow_ok saved
    obtain ⟨unused, stored⟩ := Tables.holding_of_applyAll applied
    rw [same] at stored
    have self : v'.tables.workflow? d.id = .ok d.toWorkflow := by
      rw [stored]
      exact Tables.workflow?_self constrained owned unused
    have other (id : Uuid) (differs : id ≠ d.id) : v'.tables.workflow? id = v.tables.workflow? id := by
      rw [stored]
      exact Tables.workflow?_other owned differs
    refine ⟨stored, Tables.applyAll_constrained constrained applied, other, ?_⟩
    intro stamp readable
    refine ⟨(v'.load_eq readable stamp d.id).trans self, ?_⟩
    intro id differs
    exact (v'.load_eq readable stamp id).trans (other id differs)
  · intro ready
    rw [← Tables.applyAll_iff constrained owned ready.existing]
    constructor
    · intro saved
      have applied := Server.saveWorkflow_ok (Prod.ext saved rfl)
      rw [(Tables.holding_of_applyAll applied).2] at applied
      exact applied
    · exact Server.saveWorkflow_calm ready.calm

/-- A workflow with two edges from its first node to its last, of which the first is numbered by its position. -/
def twoEdges (id : Uuid) : Definition where
  id := id
  name := "two edges"
  nodes := [⟨"start", "trigger", none, none, .null⟩, ⟨"stop", "end", none, none, .null⟩]
  edges := [⟨none, "start", "stop", none⟩, ⟨some "other", "start", "stop", none⟩]

/-- Besides a workflow that is stored, another one is saved, but not the same again. -/
theorem saveWorkflow_whole_second :
    let v := Server.ofTables .verbatim (Tables.empty.holding ((twoEdges .nil).rows 0))
    v.tables.Constrained ∧ (v.saveWorkflow ((twoEdges ⟨1⟩).rows 5)).1 = .ok () ∧
      (v.saveWorkflow ((twoEdges .nil).rows 5)).1 ≠ .ok () := by
  intro v
  have constrained : v.tables.Constrained := by constructor <;> decide
  have ready : v.Ready := ⟨fun _ _ => rfl, fun _ member => member⟩
  refine ⟨constrained, ?_, ?_⟩
  · rw [(saveWorkflow_whole (twoEdges ⟨1⟩) 5 v constrained fun _ _ => rfl).2.2 ready]
    refine ⟨?_, fun _ _ => rfl⟩
    constructor <;> decide
  · rw [Ne, (saveWorkflow_whole (twoEdges .nil) 5 v constrained fun _ _ => rfl).2.2 ready]
    rintro ⟨admits, -⟩
    exact absurd admits.unused (by decide)

end WorkflowEngine
