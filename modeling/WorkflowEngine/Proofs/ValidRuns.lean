/-
Module: WorkflowEngine.Proofs.ValidRuns
Layer: Proofs
Purpose: What validation promises for runs.  A run of a valid workflow keeps to the nodes that validation lists: it
  begins with the first of them, every step is of one of them, and it goes the same way if the stored workflow is
  cut down to them (`run_valid`).
Imports: WorkflowEngine.Proofs.Reachability, WorkflowEngine.Proofs.Rewiring
Trusted boundary: none
Main exports: MemoryStore.cutDown, Workflow.Sound.alike_cutDown, run_valid
-/
import WorkflowEngine.Proofs.Reachability
import WorkflowEngine.Proofs.Rewiring

namespace WorkflowEngine

/-! ## Workflows cut down to some of their nodes -/

/-- The workflow with only those nodes that are kept, and the edges between them. -/
def Workflow.cutDown (w : Workflow) (kept : List String) : Workflow :=
  { w with
    nodes := w.nodes.filter fun n => n.id ∈ kept
    edges := w.edges.filter fun e => e.source ∈ kept ∧ e.target ∈ kept }

/-- The store in which all nodes of a workflow but those that are kept are deleted, together with their edges. -/
def MemoryStore.cutDown (s : MemoryStore) (workflowId : Uuid) (kept : List String) : MemoryStore :=
  { s with
    nodes := s.nodes.put workflowId (((s.nodes.find? workflowId).getD []).filter fun n => n.id ∈ kept)
    edges := s.edges.put workflowId
      (((s.edges.find? workflowId).getD []).filter fun e => e.source ∈ kept ∧ e.target ∈ kept) }

theorem MemoryStore.workflow?_cutDown (s : MemoryStore) (id : Uuid) (kept : List String) :
    (s.cutDown id kept).workflow? id = (s.workflow? id).map (·.cutDown kept) := by
  simp only [workflow?, cutDown, Table.find?_put_self, Option.getD_some, Option.map_map]
  congr 1
  funext row
  simp only [Function.comp, Workflow.ofRows, Workflow.cutDown, List.filter_map, Workflow.mk.injEq, true_and]
  exact ⟨rfl, rfl⟩

section Graphs

variable {w : Workflow} {start : String}

/-- Between the nodes that can be reached, nothing is cut off. -/
theorem Graph.edgesFrom_cutDown {id : String} (reached : id ∈ (ofWorkflow w).reachable start) :
    (ofWorkflow (w.cutDown ((ofWorkflow w).reachable start))).edgesFrom id = (ofWorkflow w).edgesFrom id := by
  rw [edgesFrom_ofWorkflow, edgesFrom_ofWorkflow, Workflow.cutDown, List.filter_filter]
  apply List.filter_congr
  intro e member
  by_cases leaves : e.source = id
  · subst leaves
    simp [reached, reachable_closed member reached]
  · simp [leaves]

theorem Graph.node?_cutDown {id : String} (reached : id ∈ (ofWorkflow w).reachable start) :
    (ofWorkflow (w.cutDown ((ofWorkflow w).reachable start))).node? id = (ofWorkflow w).node? id := by
  rw [node?_ofWorkflow, node?_ofWorkflow, Workflow.cutDown, List.find?_filter]
  congr 1
  funext n
  by_cases same : n.id = id
  · simp [same, reached]
  · simp [same]

theorem Graph.next?_cutDown {n : Node} (reached : n.id ∈ (ofWorkflow w).reachable start) (result : Option Bool) :
    (ofWorkflow (w.cutDown ((ofWorkflow w).reachable start))).next? n result = (ofWorkflow w).next? n result := by
  have edge : (ofWorkflow (w.cutDown ((ofWorkflow w).reachable start))).edgeFrom? n result =
      (ofWorkflow w).edgeFrom? n result := by
    simp only [edgeFrom?, handled?, edgesFrom_cutDown reached]
  rw [next?, next?, edge]
  cases follows : (ofWorkflow w).edgeFrom? n result with
  | none => rfl
  | some e =>
      obtain ⟨member, source⟩ := mem_edgesFrom.mp (mem_edgesFrom_of_edgeFrom? follows)
      exact node?_cutDown (reachable_closed member (source ▸ reached))

theorem Workflow.Sound.entry {trigger : Node} (sound : w.Sound trigger) :
    Executor.entry (.ofWorkflow w) = .ok trigger :=
  Executor.entry_ok sound.one sound.unreserved

/-- The cut-down workflow has the same entry. -/
theorem Workflow.Sound.entry_cutDown {trigger : Node} (sound : w.Sound trigger) {kept : List String}
    (first : trigger.id ∈ kept) : Executor.entry (.ofWorkflow (w.cutDown kept)) = .ok trigger := by
  apply Executor.entry_ok
  · rw [cutDown, List.filter_comm, sound.one]
    simp [first]
  · intro n member
    exact sound.unreserved n (List.mem_filter.mp member).1

/-- From a node that can be reached, walks go the same way if all other nodes are deleted. -/
theorem Workflow.Sound.alike_cutDown {trigger : Node} (sound : w.Sound trigger) :
    w.Alike (fun n => n.id ∈ (Graph.ofWorkflow w).reachable trigger.id)
      (w.cutDown ((Graph.ofWorkflow w).reachable trigger.id)) trigger where
  entry := sound.entry
  entry_other := sound.entry_cutDown (List.mem_of_head? (Graph.reachable_head? _ _))
  begins := List.mem_of_head? (Graph.reachable_head? _ _)
  next?_eq _ reached result := Graph.next?_cutDown reached result
  stays _ reached _ _ follows := (Graph.reachable_next? reached follows).2

end Graphs

/-- The world in whose store a workflow is cut down. -/
def World.cutDown (w : World MemoryStore) (workflowId : Uuid) (kept : List String) : World MemoryStore :=
  { w with store := w.store.cutDown workflowId kept }

/-- A run of a sound workflow does not notice if all nodes that its trigger does not reach are deleted. -/
theorem Executor.runAttached_indifferent {env : Environment} {w : World MemoryStore} {workflow : Workflow} {trigger : Node}
    (x : Executor) (faultless : env.Faultless) {base : ExecutionRow}
    (there : w.store.executions.find? base.id = some base)
    (stored : w.store.workflow? base.workflowId = some workflow) (sound : workflow.Sound trigger) :
    (x.runAttached base.id).run.Indifferent env
      (·.cutDown base.workflowId ((Graph.ofWorkflow workflow).reachable trigger.id)) w := by
  have cut := MemoryStore.workflow?_cutDown w.store base.workflowId ((Graph.ofWorkflow workflow).reachable trigger.id)
  rw [stored] at cut
  have indifferent := x.runAttached_rewired faultless there stored cut sound.alike_cutDown
  obtain ⟨-, nodes, edges⟩ := @Process.run_workflows env _ (x.runAttached base.id).run w
  unfold Process.Indifferent at *
  simp only [World.cutDown, MemoryStore.cutDown, nodes, edges]
  exact indifferent

/-! ## Visits -/

section Visits

variable {w : Workflow} {possible : Node → Context → Except String NodeOutput → Prop} {left : Nat}
  {context : Context} {visits : List Visit}

theorem Trail.each_possible {g : Graph} {node : Option Node} (trail : Trail g possible left context node visits) :
    ∀ v ∈ visits, possible v.node v.context v.result := by
  induction trail with
  | astray | spent => simp
  | failed visited => simpa using visited
  | arrived visited => simpa using visited
  | onward visited inner rest ih => exact List.forall_mem_cons.mpr ⟨visited, ih⟩

theorem Trail.first {g : Graph} {node : Node} (trail : Trail g possible left context (some node) visits) {v : Visit}
    {after : List Visit} (begins : visits = v :: after) : v.node = node := by
  cases trail <;> cases begins <;> rfl

/-- A walk that begins where it can get stays where it can get. -/
theorem Trail.reached (start : String) {node : Option Node}
    (trail : Trail (.ofWorkflow w) possible left context node visits)
    (begins : ∀ n, node = some n → n ∈ w.nodes ∧ n.id ∈ (Graph.ofWorkflow w).reachable start) :
    ∀ v ∈ visits, v.node ∈ w.nodes ∧ v.node.id ∈ (Graph.ofWorkflow w).reachable start := by
  induction trail with
  | astray | spent => simp
  | failed visited => simpa using begins _ rfl
  | arrived visited => simpa using begins _ rfl
  | onward visited inner rest ih =>
      have here := begins _ rfl
      exact List.forall_mem_cons.mpr ⟨here, ih fun n follows => Graph.reachable_next? here.2 follows⟩

theorem Logged.visit {id : Uuid} {rows : List StepRow} (logged : Logged id visits rows) {row : StepRow}
    (member : row ∈ rows) : ∃ v ∈ visits, v.Recorded id row := by
  induction logged with
  | nil => cases member
  | @cons v row' visits rows recorded rest ih =>
      rcases List.mem_cons.mp member with rfl | later
      · exact ⟨v, List.mem_cons_self, recorded⟩
      · obtain ⟨v, visited, recorded⟩ := ih later
        exact ⟨v, List.mem_cons_of_mem _ visited, recorded⟩

/-- The step of a condition puts out its own text, with a result. -/
theorem Visit.Recorded.condition {admits : Answers} {x : Executor} {e : Execution} {id : Uuid} {v : Visit}
    {row : StepRow} (recorded : v.Recorded id row) (possible : Executor.Possible admits x e v.node v.context v.result)
    (kind : v.node.kind = .condition) :
    ∃ result, row.output = (NodeOutput.condition result v.node.conditionText).toJson := by
  cases said : v.result with
  | error message =>
      rw [said] at possible
      exact absurd kind possible.not_failed.1
  | ok output =>
      rw [said] at possible
      have stored := recorded.output_eq said
      cases possible.putsOut with
      | condition => exact ⟨_, stored⟩
      | trigger other => cases kind.symm.trans other
      | other notCondition => exact absurd kind notCondition

end Visits

/-! ## Runs of valid workflows -/

/-- A run of a workflow that validation accepts keeps to the nodes that validation lists, whatever handlers do and
however the outside behaves, if no call to the store fails.  It has no error to record, its first step is of the first
node in the list, all steps are of nodes in the list, every condition among them could be read, and if all other nodes
are deleted from the store, together with their edges, the run records and returns the same. -/
theorem run_valid (x : Executor) {env : Environment} {w : World MemoryStore} {base : ExecutionRow}
    {workflow : Workflow} {reached : List String} {text : String}
    (there : w.store.executions.find? base.id = some base) (pending : base.status = ExecutionStatus.pending.name)
    (stored : w.store.workflow? base.workflowId = some workflow) (valid : workflow.validate = .ok reached)
    (faultless : env.Faultless) (named : Executor.readId text = .ok base.id) :
    let ran := (x.runNamed text).run.run env w
    let ranCutDown := (x.runNamed text).run.run env (w.cutDown base.workflowId reached)
    ∃ summary row log, ran.1 = some (.ok summary) ∧
      ran.2.store.Holds base.id (some row) (w.store.stepsOf base.id ++ log) ∧ row.error = none ∧
      (∀ s after, log = s :: after → reached.head? = some s.nodeId) ∧ (∀ s ∈ log, s.nodeId ∈ reached) ∧
      (∀ n ∈ workflow.nodes, n.kind = .condition → ∀ s ∈ log, s.nodeId = n.id →
        (∃ result, s.output = (NodeOutput.condition result n.conditionText).toJson) ∧
          Expression.read? n.conditionText.toList ≠ none) ∧
      ranCutDown.1 = some (.ok summary) ∧
      ranCutDown.2.store.Holds base.id (some row) (w.store.stepsOf base.id ++ log) := by
  intro ran ranCutDown
  obtain ⟨trigger, sound, rfl⟩ := Workflow.sound_of_validate valid
  obtain ⟨r, result, accomplished⟩ := x.run_accomplished faultless there pending named
  have indifferent := x.runAttached_indifferent faultless there stored sound
  have cut : ranCutDown = (ran.1, ran.2.cutDown base.workflowId ((Graph.ofWorkflow workflow).reachable trigger.id)) := by
    simp only [ran, ranCutDown, Executor.runNamed_run faultless.refuses named]
    exact indifferent
  cases accomplished with
  | @intro e clock now visits outcome rows read concluded logged holds =>
      rw [← ExecutionRow.toExecution_workflowId read] at stored
      obtain ⟨rfl, trail⟩ := concluded.walks faultless stored sound.entry
      have known : trigger ∈ workflow.nodes := by
        have only : trigger ∈ workflow.nodes.filter fun n => n.kind = .trigger := by simp [sound.one]
        exact (List.mem_filter.mp only).1
      have visited := trail.reached trigger.id fun n begins => by
        cases begins
        exact ⟨known, List.mem_of_head? (Graph.reachable_head? _ _)⟩
      refine ⟨_, _, rows, result, holds, rfl, ?_, ?_, ?_, ?_, ?_⟩
      · intro s after begins
        subst begins
        obtain ⟨v, visits, recorded, -, rfl⟩ := List.forall₂_cons_right_iff.mp logged
        rw [recorded.nodeId_eq, trail.first rfl]
        exact Graph.reachable_head? ..
      · intro s member
        obtain ⟨v, visit, recorded⟩ := logged.visit member
        rw [recorded.nodeId_eq]
        exact (visited v visit).2
      · intro n member kind s step own
        obtain ⟨v, visit, recorded⟩ := logged.visit step
        rw [recorded.nodeId_eq] at own
        -- Node ids are distinct, so the step is of this very node.
        cases List.inj_on_of_nodup_map sound.distinct (visited v visit).1 member own
        exact ⟨recorded.condition (trail.each_possible v visit) kind, sound.readable _ member kind⟩
      · rw [cut]
        exact result
      · rw [cut]
        exact ⟨holds.row, holds.log⟩

/-- A workflow that branches, with a node that no run gets to. -/
def branchRows : Rows where
  workflow := ⟨.nil, "branch", 0⟩
  nodes := [⟨"start", .nil, "trigger", none, none, .null⟩,
    ⟨"check", .nil, "condition", none, none, .object [("condition", .text "true")]⟩,
    ⟨"stop", .nil, "end", none, none, .null⟩, ⟨"idle", .nil, "delay", none, none, .null⟩]
  edges := [⟨"e0", .nil, "start", "check", none⟩, ⟨"e1", .nil, "check", "stop", some "true"⟩,
    ⟨"e2", .nil, "idle", "stop", none⟩]

/-- A store that holds that workflow, and a pending execution of it. -/
def branchStore : MemoryStore :=
  { MemoryStore.empty.putWorkflow branchRows with
    executions := Table.empty.put messageExecution.id messageExecution }

theorem branchRows_valid : branchRows.toWorkflow.validate = .ok ["start", "check", "stop"] := by
  have nodes : checkNodeIds [] branchRows.toWorkflow.nodes = .ok () := by decide
  have edges : checkEdges (branchRows.toWorkflow.nodes.map (·.id)) [] branchRows.toWorkflow.edges = .ok () := by decide
  have conditions : checkConditions branchRows.toWorkflow.nodes = .ok () := by decide +kernel
  have trigger : (Graph.ofWorkflow branchRows.toWorkflow).trigger = .ok ⟨"start", .trigger, none, []⟩ := rfl
  have reached : (Graph.ofWorkflow branchRows.toWorkflow).reachable "start" = ["start", "check", "stop"] := by
    have edges : (Graph.ofWorkflow branchRows.toWorkflow).workflow.edges.length = 3 := rfl
    rw [Graph.reachable, edges]
    simp [Graph.search, Graph.edgesFrom_ofWorkflow, Graph.discover, branchRows, Rows.toWorkflow, Workflow.ofRows,
      EdgeRow.toEdge]
  simp only [Workflow.validate, nodes, edges, trigger, conditions, bind, Except.bind, reached]

theorem run_valid_branch :
    let x : Executor := ⟨.builtins 1000 1000, 5, 0⟩
    let ran := (x.runNamed messageExecution.id.render).run.run .calm (.start branchStore)
    ∃ summary, ran.1 = some (.ok summary) ∧ ∀ s ∈ ran.2.store.stepsOf messageExecution.id, s.nodeId ≠ "idle" ∧
      (s.nodeId = "check" → ∃ result, s.output = (NodeOutput.condition result "true").toJson) := by
  intro x ran
  have there : branchStore.executions.find? messageExecution.id = some messageExecution := Table.find?_put_self ..
  have stored : branchStore.workflow? messageExecution.workflowId = some branchRows.toWorkflow := rfl
  obtain ⟨summary, row, log, ended, holds, -, -, listed, conditions, -⟩ := run_valid x (w := .start branchStore) there
    rfl stored branchRows_valid Environment.calm_faultless readId_message
  have all : ran.2.store.stepsOf messageExecution.id = log := holds.log
  refine ⟨summary, ended, fun s member => ⟨fun idle => ?_, fun check => ?_⟩⟩
  · have kept := listed s (all ▸ member)
    rw [idle] at kept
    revert kept
    decide
  · have condition : (⟨"check", .condition, none, [("condition", .text "true")]⟩ : Node) ∈ branchRows.toWorkflow.nodes := by
      decide
    exact (conditions _ condition rfl s (all ▸ member) check).1

end WorkflowEngine
