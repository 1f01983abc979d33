/-
Module: WorkflowEngine.Proofs.ListOrder
Layer: Proofs
Purpose: Workflows in which the order of nodes and edges is of no account.  If a walk has a choice of one edge at most
  wherever it can be, what is found does not depend on the order of what is searched (`find?_of_perm`), and so two
  workflows that list the same nodes and edges in different orders have the same runs (`order_makes_no_difference`).
Imports: WorkflowEngine.Proofs.DoubleStart, WorkflowEngine.Proofs.ValidRuns
Trusted boundary: none
Main exports: Workflow.Unambiguous, Workflow.Rearranged, Workflow.Unambiguous.alike, MemoryStore.rearranged,
  Executor.runAttached_rearranged, order_makes_no_difference
-/
import WorkflowEngine.Proofs.DoubleStart
import WorkflowEngine.Proofs.ValidRuns

namespace WorkflowEngine

/-! ## Searching in another order -/

/-- If there is one answer at most, the order in which it is searched is of no account. -/
theorem find?_of_perm {α : Type} {l l' : List α} (perm : l'.Perm l) {p : α → Bool}
    (single : (l.filter p).length ≤ 1) : l'.find? p = l.find? p := by
  have same := perm.filter p
  rw [← List.head?_filter, ← List.head?_filter]
  match found : l.filter p with
  | [] =>
      rw [found] at same
      rw [same.eq_nil]
  | [a] =>
      rw [found] at same
      rw [List.perm_singleton.mp same]
  | a :: b :: rest =>
      rw [found] at single
      simp at single

/-- The same nodes and edges in any order. -/
structure Workflow.Rearranged (w w' : Workflow) : Prop where
  nodes : w'.nodes.Perm w.nodes
  edges : w'.edges.Perm w.edges

/-- No walk has a choice: one edge at most leaves a condition for each text that it looks for, and one edge at most
leaves any other node. -/
structure Workflow.Unambiguous (w : Workflow) : Prop where
  branches : ∀ n ∈ w.nodes, n.kind = .condition → ∀ handle ∈ ["true", "false", "default"],
    (w.edges.filter fun e => e.source = n.id ∧ e.handle = some handle).length ≤ 1
  others : ∀ n ∈ w.nodes, n.kind ≠ .condition → (w.edges.filter fun e => e.source = n.id).length ≤ 1

section Graphs

variable {w w' : Workflow} {trigger : Node}

/-- Where ids are distinct, a node is found in any order. -/
theorem Graph.node?_rearranged (distinct : (w.nodes.map (·.id)).Nodup) (rearranged : w.Rearranged w') (id : String) :
    (ofWorkflow w').node? id = (ofWorkflow w).node? id := by
  rw [node?_ofWorkflow, node?_ofWorkflow]
  exact find?_of_perm rearranged.nodes (length_filter_key_le_one distinct id)

theorem Graph.handled?_rearranged (rearranged : w.Rearranged w') {id handle : String}
    (single : (w.edges.filter fun e => e.source = id ∧ e.handle = some handle).length ≤ 1) :
    (ofWorkflow w').handled? id handle = (ofWorkflow w).handled? id handle := by
  rw [handled?_ofWorkflow, handled?_ofWorkflow]
  exact find?_of_perm rearranged.edges single

/-- Wherever a walk is, it goes on over the same edge. -/
theorem Workflow.Unambiguous.edgeFrom? (unambiguous : w.Unambiguous) (rearranged : w.Rearranged w') {n : Node}
    (member : n ∈ w.nodes) (result : Option Bool) :
    (Graph.ofWorkflow w').edgeFrom? n result = (Graph.ofWorkflow w).edgeFrom? n result := by
  by_cases branch : n.kind = .condition
  · have single := unambiguous.branches n member branch
    simp only [Graph.edgeFrom?, branch, if_true]
    rw [Graph.handled?_rearranged rearranged (single "default" (by simp))]
    cases result.getD false with
    | true => exact congrArg (Option.or · _) (Graph.handled?_rearranged rearranged (single "true" (by simp)))
    | false => exact congrArg (Option.or · _) (Graph.handled?_rearranged rearranged (single "false" (by simp)))
  · simp only [Graph.edgeFrom?, branch, if_false]
    rw [Graph.head?_edgesFrom, Graph.head?_edgesFrom]
    exact find?_of_perm rearranged.edges (unambiguous.others n member branch)

/-- Of two workflows that differ in the order of their lists alone, a walk goes the same way through both. -/
theorem Workflow.Unambiguous.alike (unambiguous : w.Unambiguous) (sound : w.Sound trigger)
    (rearranged : w.Rearranged w') : w.Alike (· ∈ w.nodes) w' trigger where
  entry := sound.entry
  entry_other := by
    apply Executor.entry_ok
    · have same := rearranged.nodes.filter fun n => n.kind = .trigger
      rw [sound.one] at same
      exact List.perm_singleton.mp same
    · intro n member
      exact sound.unreserved n (rearranged.nodes.mem_iff.mp member)
  begins := by
    have only : trigger ∈ w.nodes.filter fun n => n.kind = .trigger := by simp [sound.one]
    exact (List.mem_filter.mp only).1
  next?_eq n member result := by
    rw [Graph.next?, Graph.next?, unambiguous.edgeFrom? rearranged member]
    congr 1
    funext e
    exact Graph.node?_rearranged sound.distinct rearranged e.target
  stays n member result next follows := by
    obtain ⟨e, -, found⟩ := Option.bind_eq_some_iff.mp follows
    rw [Graph.node?_ofWorkflow] at found
    exact List.mem_of_find?_eq_some found

end Graphs

/-! ## Runs -/

/-- The store with a workflow's nodes and edges in other lists. -/
def MemoryStore.rearranged (s : MemoryStore) (workflowId : Uuid) (nodes : List NodeRow) (edges : List EdgeRow) :
    MemoryStore :=
  s.rewired (s.nodes.put workflowId nodes) (s.edges.put workflowId edges)

section Runs

variable {env : Environment} {w : World MemoryStore} {base : ExecutionRow} {workflow : Workflow} {trigger : Node}
  {nodes : List NodeRow} {edges : List EdgeRow}

/-- What is stored of a workflow whose lists are in another order. -/
theorem MemoryStore.workflow?_rearranged {s : MemoryStore} {id : Uuid} (stored : s.workflow? id = some workflow)
    (nodes_perm : nodes.Perm ((s.nodes.find? id).getD [])) (edges_perm : edges.Perm ((s.edges.find? id).getD [])) :
    ∃ other, (s.rearranged id nodes edges).workflow? id = some other ∧ workflow.Rearranged other := by
  obtain ⟨row, found, rfl⟩ := Option.map_eq_some_iff.mp stored
  refine ⟨.ofRows row nodes edges, ?_, ?_⟩
  · simp only [workflow?, rearranged, rewired, Table.find?_put_self, Option.getD_some, found, Option.map_some]
  · exact ⟨nodes_perm.map _, edges_perm.map _⟩

/-- Whatever handlers do, and however the outside behaves, a run does not notice if the lists of its workflow are
stored in another order, as long as no call fails and no walk has a choice. -/
theorem Executor.runAttached_rearranged (x : Executor) (faultless : env.Faultless)
    (there : w.store.executions.find? base.id = some base)
    (stored : w.store.workflow? base.workflowId = some workflow) (sound : workflow.Sound trigger)
    (unambiguous : workflow.Unambiguous) (nodes_perm : nodes.Perm ((w.store.nodes.find? base.workflowId).getD []))
    (edges_perm : edges.Perm ((w.store.edges.find? base.workflowId).getD [])) :
    (x.runAttached base.id).run.Indifferent env
      (·.rewired (w.store.nodes.put base.workflowId nodes) (w.store.edges.put base.workflowId edges)) w := by
  obtain ⟨other, rearranged, differs⟩ := MemoryStore.workflow?_rearranged stored nodes_perm edges_perm
  exact x.runAttached_rewired faultless there stored rearranged (unambiguous.alike sound differs)

/-- The order in which a valid workflow lists its nodes and edges makes no difference, if one edge at most leaves a
condition for each text that it looks for and one edge at most leaves any other node.  Of two runs of a pending
execution, at different times and with different ids, one with the lists as they are and one with the same nodes and
edges in any other order, both succeed, record the same steps and end in the same state. -/
theorem order_makes_no_difference (x : Executor) {v : World MemoryStore} {reached : List String} {text : String}
    (there : w.store.executions.find? base.id = some base) (pending : base.status = ExecutionStatus.pending.name)
    (stored : w.store.workflow? base.workflowId = some workflow) (valid : workflow.validate = .ok reached)
    (unambiguous : workflow.Unambiguous) (nodes_perm : nodes.Perm ((w.store.nodes.find? base.workflowId).getD []))
    (edges_perm : edges.Perm ((w.store.edges.find? base.workflowId).getD []))
    (rearranged : v.store = w.store.rearranged base.workflowId nodes edges)
    (faultless : env.Faultless) (forgetful : env.Forgetful) (stateless : x.registry.Stateless)
    (named : Executor.readId text = .ok base.id) :
    let ran := (x.runNamed text).run.run env w
    let other := (x.runNamed text).run.run env v
    ∃ summary summary', ran.1 = some (.ok summary) ∧ other.1 = some (.ok summary') ∧
      summary.timeless = summary'.timeless ∧ SameRecords base.id ran.2.store other.2.store := by
  intro ran other
  obtain ⟨trigger, sound, rfl⟩ := Workflow.sound_of_validate valid
  -- The run in the order as it was, but in the other world.
  let back : World MemoryStore := { v with store := w.store }
  have moved : v = back.rewired (w.store.nodes.put base.workflowId nodes) (w.store.edges.put base.workflowId edges) :=
    congrArg (fun store => { v with store }) rearranged
  have indifferent := x.runAttached_rearranged (w := back) faultless there stored sound unambiguous nodes_perm edges_perm
  rw [Process.Indifferent, ← Executor.runNamed_run faultless.refuses named,
    ← Executor.runNamed_run faultless.refuses named] at indifferent
  change (x.runNamed text).run.run env
    (back.rewired (w.store.nodes.put base.workflowId nodes) (w.store.edges.put base.workflowId edges)) = _ at indifferent
  rw [← moved] at indifferent
  obtain ⟨r, result, done⟩ := x.run_accomplished (w := w) faultless there pending named
  obtain ⟨r', result', done'⟩ := x.run_accomplished (w := back) faultless there pending named
  obtain ⟨same, told⟩ := done.unique faultless forgetful stateless done'
  obtain ⟨summary, rfl⟩ := done.eq_ok
  obtain ⟨summary', rfl⟩ := done'.eq_ok
  simp only [Except.map, Except.ok.injEq] at told
  refine ⟨summary, summary', result, ?_, told, ?_⟩
  · simp only [other, indifferent, result']
  · simp only [other, indifferent]
    exact same

end Runs

theorem branchRows_unambiguous : branchRows.toWorkflow.Unambiguous where
  branches := by decide
  others := by decide

/-- A workflow that branches, and the same workflow with its lists reversed. -/
theorem order_makes_no_difference_branch :
    let x : Executor := ⟨.builtins 1000 1000, 5, 0⟩
    let reversed := branchStore.rearranged messageExecution.workflowId branchRows.nodes.reverse branchRows.edges.reverse
    let later : World MemoryStore := { World.start reversed with now := 7, issued := 3 }
    let ran := (x.runNamed messageExecution.id.render).run.run .calm (.start branchStore)
    let other := (x.runNamed messageExecution.id.render).run.run .calm later
    ∃ summary summary', ran.1 = some (.ok summary) ∧ other.1 = some (.ok summary') ∧
      summary.timeless = summary'.timeless ∧ SameRecords messageExecution.id ran.2.store other.2.store := by
  intro x reversed later
  have there : branchStore.executions.find? messageExecution.id = some messageExecution := Table.find?_put_self ..
  have forgetful : Environment.calm.Forgetful := ⟨fun _ _ _ => rfl, fun _ _ _ => rfl⟩
  exact order_makes_no_difference x (w := .start branchStore) (v := later) there rfl rfl branchRows_valid
    branchRows_unambiguous (List.reverse_perm _) (List.reverse_perm _) rfl Environment.calm_faultless forgetful
    (Registry.builtins_stateless 1000 1000) readId_message

end WorkflowEngine
