/-
Module: WorkflowEngine.Proofs.LegalWalk
Layer: Proofs
Purpose: The step log of a run is a walk through the graph.  A legal walk is said of nodes and stored steps alone,
  with what a step saw folded from the steps before it; the log of every run that the store serves is one, however
  handlers and the outside behave (`run_legal`).
Imports: WorkflowEngine.Proofs.Accomplishment
Trusted boundary: none
Main exports: StepRow.conditionResult?, Context.seen, LegalWalk, Trail.legal, MemoryStore.workflow?, run_legal
-/
import WorkflowEngine.Proofs.Accomplishment

namespace WorkflowEngine

/-! ## Walks, from what is stored -/

/-- The result that the step of a condition records. -/
def StepRow.conditionResult? (row : StepRow) : Option Bool :=
  (row.output.members?.bind (Json.Object.find? · conditionResultKey)).bind Json.bool?

/-- What later nodes see once a step is recorded: its output under the id of the node, and the result if the node
is a condition. -/
def Context.seen (context : Context) (s : Node × StepRow) : Context :=
  let context := context.withOutput s.2.nodeId s.2.output
  match s.1.kind, s.2.conditionResult? with
  | .condition, some result => context.withConditionResult result
  | _, _ => context

/-- Steps with their nodes are a legal walk from a node, or from nowhere, in a context.  There are at most `limit`
of them. -/
structure LegalWalk (g : Graph) (payload : Json) (limit : Nat) (context : Context) (start : Option Node)
    (steps : List (Node × StepRow)) : Prop where
  length_le : steps.length ≤ limit
  nodeId : ∀ s ∈ steps, s.2.nodeId = s.1.id
  /-- The walk starts at the start. -/
  first : ∀ s after, steps = s :: after → start = some s.1
  /-- A trigger puts out the payload. -/
  trigger : ∀ s ∈ steps, s.1.kind = .trigger → s.2.output = payload
  /-- A condition puts out the truth of the expression that it records, in the context of the steps before. -/
  condition : ∀ before s after, steps = before ++ s :: after → s.1.kind = .condition → ∃ expression,
    s.2.output = (NodeOutput.condition (evaluateCondition expression (before.foldl Context.seen context).entries)
      expression).toJson
  /-- The walk goes from node to node along edges. -/
  next : ∀ before s t after, steps = before ++ s :: t :: after → g.next? s.1 s.2.conditionResult? = some t.1
  /-- Before the last step, nothing fails and nothing ends the walk. -/
  inner : ∀ before s t after, steps = before ++ s :: t :: after →
    s.2.status = StepStatus.completed.name ∧ s.1.kind ≠ .terminal
  /-- The walk stops for a reason. -/
  stops : start = none ∨ steps.length = limit ∨ ∃ before s, steps = before ++ [s] ∧
    (s.2.status = StepStatus.failed.name ∨ s.1.kind = .terminal ∨ g.next? s.1 s.2.conditionResult? = none)

namespace LegalWalk

variable {g : Graph} {payload : Json} {limit : Nat} {context : Context} {node : Node} {row : StepRow}

theorem nil {start : Option Node} (ended : start = none ∨ limit = 0) : LegalWalk g payload limit context start [] where
  length_le := Nat.zero_le _
  nodeId s member := by cases member
  first s after split := by cases split
  trigger s member := by cases member
  condition before s after split := by simp at split
  next before s t after split := by simp at split
  inner before s t after split := by simp at split
  stops := ended.imp_right fun none => .inl none.symm

/-- What a single step has to show, whatever comes after it. -/
structure Sound (payload : Json) (context : Context) (node : Node) (row : StepRow) : Prop where
  nodeId : row.nodeId = node.id
  trigger : node.kind = .trigger → row.output = payload
  condition : node.kind = .condition → ∃ expression,
    row.output = (NodeOutput.condition (evaluateCondition expression context.entries) expression).toJson

theorem single (sound : Sound payload context node row)
    (ended : row.status = StepStatus.failed.name ∨ node.kind = .terminal) :
    LegalWalk g payload (limit + 1) context (some node) [(node, row)] where
  length_le := Nat.succ_le_succ (Nat.zero_le _)
  nodeId s member := by
    rw [List.mem_singleton.mp member]
    exact sound.nodeId
  first s after split := by
    cases split
    rfl
  trigger s member := by
    rw [List.mem_singleton.mp member]
    exact sound.trigger
  condition before s after split := by
    obtain ⟨rfl, rfl, rfl⟩ : before = [] ∧ s = (node, row) ∧ after = [] := by
      cases before <;> simp_all
    exact sound.condition
  next before s t after split := by
    have length := congrArg List.length split
    simp at length
    omega
  inner before s t after split := by
    have length := congrArg List.length split
    simp at length
    omega
  stops := .inr (.inr ⟨[], _, rfl, ended.imp_right .inl⟩)

/-- A step that was completed, before a legal walk from the node after it. -/
theorem cons {steps : List (Node × StepRow)} (sound : Sound payload context node row)
    (completed : row.status = StepStatus.completed.name) (inner : node.kind ≠ .terminal)
    (rest : LegalWalk g payload limit (context.seen (node, row)) (g.next? node row.conditionResult?) steps) :
    LegalWalk g payload (limit + 1) context (some node) ((node, row) :: steps) where
  length_le := Nat.succ_le_succ rest.length_le
  nodeId s member := by
    rcases List.mem_cons.mp member with rfl | later
    · exact sound.nodeId
    · exact rest.nodeId s later
  first s after split := by
    cases split
    rfl
  trigger s member := by
    rcases List.mem_cons.mp member with rfl | later
    · exact sound.trigger
    · exact rest.trigger s later
  condition before s after split := by
    cases before with
    | nil =>
        cases split
        exact sound.condition
    | cons head before =>
        cases split
        exact rest.condition before s after rfl
  next before s t after split := by
    cases before with
    | nil =>
        cases split
        exact rest.first t after rfl
    | cons head before =>
        cases split
        exact rest.next before s t after rfl
  inner before s t after split := by
    cases before with
    | nil =>
        cases split
        exact ⟨completed, inner⟩
    | cons head before =>
        cases split
        exact rest.inner before s t after rfl
  stops := by
    rcases rest.stops with nowhere | full | ⟨before, s, rfl, ended⟩
    · cases steps with
      | nil => exact .inr (.inr ⟨[], _, rfl, .inr (.inr nowhere)⟩)
      | cons s after =>
          have first := rest.first s after rfl
          rw [nowhere] at first
          cases first
    · exact .inr (.inl (congrArg (· + 1) full))
    · exact .inr (.inr ⟨_ :: before, s, rfl, ended⟩)

end LegalWalk

/-! ## Visits -/

variable {admits : Answers} {x : Executor} {e : Execution} {node : Node} {context : Context} {row : StepRow}

/-- What a visit puts out: the truth of its expression if the node is a condition, and otherwise no truth value. -/
inductive PutsOut (payload : Json) (node : Node) (context : Context) : NodeOutput → Prop where
  | condition (kind : node.kind = .condition) :
      PutsOut payload node context
        (.condition (evaluateCondition node.conditionText context.entries) node.conditionText)
  | trigger (kind : node.kind = .trigger) : PutsOut payload node context (.trigger payload)
  | other {output : NodeOutput} (notCondition : node.kind ≠ .condition) (notTrigger : node.kind ≠ .trigger)
      (none : output.conditionResult? = none) : PutsOut payload node context output

theorem Executor.Possible.putsOut {output : NodeOutput} (h : Possible admits x e node context (.ok output)) :
    PutsOut e.payload node context output := by
  unfold Possible visit at h
  cases kind : node.kind with
  | trigger =>
      simp only [kind] at h
      cases h
      exact .trigger kind
  | condition =>
      simp only [kind] at h
      cases h
      exact .condition kind
  | action type =>
      simp only [kind] at h
      obtain ⟨outcome, -, settles⟩ := Process.Yields.of_bind h
      have settles : settled outcome = .ok output := settles
      refine .other (by simp [kind]) (by simp [kind]) ?_
      unfold settled at settles
      split at settles <;> cases settles
      rfl
  | delay =>
      simp only [kind] at h
      obtain ⟨slept, admitted, ends⟩ := h
      cases ends
      exact .other (by simp [kind]) (by simp [kind]) rfl
  | terminal | other =>
      simp only [kind] at h
      cases h
      exact .other (by simp [kind]) (by simp [kind]) rfl

theorem Executor.Possible.not_failed {message : String} (h : Possible admits x e node context (.error message)) :
    node.kind ≠ .condition ∧ node.kind ≠ .trigger := by
  unfold Possible visit at h
  cases kind : node.kind with
  | trigger | condition =>
      simp only [kind] at h
      cases h
  | action | delay | terminal | other => simp

@[simp] theorem Context.conditionResult?_withConditionResult (context : Context) (result : Bool) :
    (context.withConditionResult result).conditionResult? = some result := by
  simp [conditionResult?, withConditionResult, withOutput, find?, Json.Object.find?_insert, Json.bool?]

/-- What the step of a condition records is its result. -/
theorem StepRow.conditionResult?_of_condition {result : Bool} {expression : String}
    (output : row.output = (NodeOutput.condition result expression).toJson) : row.conditionResult? = some result := by
  simp [conditionResult?, output, NodeOutput.toJson, Json.ofMembers, Json.members?, Json.Object.ofList,
    Json.Object.find?_insert, conditionResultKey, Json.bool?]

/-- A node that is no condition does not care for a result. -/
theorem Graph.next?_of_not_condition (g : Graph) (notCondition : node.kind ≠ .condition) (a b : Option Bool) :
    g.next? node a = g.next? node b := by
  simp only [next?, edgeFrom?, if_neg notCondition]

/-- What later nodes see, and which of them comes next, can be read off the stored step. -/
theorem Visit.Recorded.seen_eq {id : Uuid} {payload : Json} {output : NodeOutput} (g : Graph)
    (recorded : Visit.Recorded id ⟨node, context, .ok output⟩ row) (out : PutsOut payload node context output) :
    context.seen (node, row) = Executor.extend context node output ∧
      g.next? node row.conditionResult? = g.next? node (Executor.extend context node output).conditionResult? := by
  have nodeId := recorded.nodeId_eq
  have stored := recorded.output_eq rfl
  cases out with
  | condition kind =>
      have result := StepRow.conditionResult?_of_condition stored
      constructor
      · simp only [Context.seen, kind, result, nodeId, stored]
        rfl
      · rw [result]
        simp only [Executor.extend, NodeOutput.conditionResult?, Context.conditionResult?_withConditionResult]
  | trigger kind =>
      refine ⟨?_, g.next?_of_not_condition (by simp [kind]) _ _⟩
      simp only [Context.seen, kind, nodeId, stored]
      rfl
  | other notCondition _ none =>
      refine ⟨?_, g.next?_of_not_condition notCondition _ _⟩
      simp only [Context.seen, nodeId, stored, Executor.extend, none]
      split
      · rename_i kind _
        exact absurd kind notCondition
      · rfl

/-- A stored step shows what a step has to show. -/
theorem Visit.Recorded.sound {id : Uuid} {result : Except String NodeOutput}
    (recorded : Visit.Recorded id ⟨node, context, result⟩ row)
    (possible : Executor.Possible admits x e node context result) : LegalWalk.Sound e.payload context node row := by
  cases result with
  | error message =>
      obtain ⟨notCondition, notTrigger⟩ := possible.not_failed
      exact ⟨recorded.nodeId_eq, fun kind => absurd kind notTrigger, fun kind => absurd kind notCondition⟩
  | ok output =>
      have stored := recorded.output_eq rfl
      cases possible.putsOut with
      | condition kind =>
          refine ⟨recorded.nodeId_eq, fun other => ?_, fun _ => ⟨_, stored⟩⟩
          cases kind.symm.trans other
      | trigger kind =>
          refine ⟨recorded.nodeId_eq, fun _ => stored, fun other => ?_⟩
          cases kind.symm.trans other
      | other notCondition notTrigger =>
          exact ⟨recorded.nodeId_eq, fun kind => absurd kind notTrigger, fun kind => absurd kind notCondition⟩

/-! ## Trails -/

/-- The steps that record a trail are a legal walk. -/
theorem Trail.legal {g : Graph} {limit : Nat} {start : Option Node} {visits : List Visit} {id : Uuid}
    (trail : Trail g (Executor.Possible admits x e) limit context start visits) {rows : List StepRow}
    (logged : Logged id visits rows) :
    ∃ steps, steps.map Prod.snd = rows ∧ LegalWalk g e.payload limit context start steps := by
  induction trail generalizing rows with
  | astray =>
      cases logged
      exact ⟨[], rfl, .nil (.inl rfl)⟩
  | spent =>
      cases logged
      exact ⟨[], rfl, .nil (.inr rfl)⟩
  | @failed limit context node message visited =>
      obtain ⟨row, rest, recorded, none, rfl⟩ := List.forall₂_cons_left_iff.mp logged
      cases none
      exact ⟨[(node, row)], rfl, .single (recorded.sound visited) (.inl recorded.status_eq)⟩
  | @arrived limit context node output visited terminal =>
      obtain ⟨row, rest, recorded, none, rfl⟩ := List.forall₂_cons_left_iff.mp logged
      cases none
      exact ⟨[(node, row)], rfl, .single (recorded.sound visited) (.inr terminal)⟩
  | @onward limit context node output visits visited inner trail ih =>
      obtain ⟨row, rows, recorded, later, rfl⟩ := List.forall₂_cons_left_iff.mp logged
      obtain ⟨steps, rfl, legal⟩ := ih later
      obtain ⟨seen, next⟩ := recorded.seen_eq g visited.putsOut
      -- The rest of the walk goes on from what is read off the step, not from what the visit put out.
      rw [← next, ← seen] at legal
      exact ⟨(node, row) :: steps, rfl, .cons (recorded.sound visited) recorded.status_eq inner legal⟩

/-- No visit failed if no step that records them did. -/
theorem Logged.none_failed_iff {id : Uuid} {visits : List Visit} {rows : List StepRow}
    (logged : Logged id visits rows) :
    visits.any Visit.failed = false ↔ ∀ row ∈ rows, row.status ≠ StepStatus.failed.name := by
  induction logged with
  | nil => simp
  | @cons v row visits rows recorded later ih =>
      have here : v.failed = false ↔ row.status ≠ StepStatus.failed.name := by
        rw [recorded.status_eq, Visit.status]
        cases v.failed <;> decide
      rw [List.any_cons, Bool.or_eq_false_iff, here, ih, List.forall_mem_cons]

/-! ## Runs -/

/-- The workflow with an id that a store holds. -/
def MemoryStore.workflow? (s : MemoryStore) (id : Uuid) : Option Workflow :=
  (s.workflows.find? id).map fun row => .ofRows row ((s.nodes.find? id).getD []) ((s.edges.find? id).getD [])

theorem MemoryStore.KeepsWorkflows.workflow?_eq {s s' : MemoryStore} (h : s.KeepsWorkflows s') (id : Uuid) :
    s'.workflow? id = s.workflow? id := by
  rw [workflow?, h.workflows, h.nodes, h.edges]
  rfl

variable {env : Environment} {first : MemoryStore} {base : ExecutionRow} {workflow : Workflow}

/-- Where no call fails, a workflow that is stored is what can be loaded. -/
theorem Loadable.eq_stored (faultless : env.Faultless) {id : Uuid} {g : Graph}
    (loaded : Loadable (Steady env first) id g) (stored : first.workflow? id = some workflow) :
    g = .ofWorkflow workflow := by
  obtain ⟨row, nodes, edges, workflowSaid, nodesSaid, edgesSaid, rfl⟩ := loaded
  obtain ⟨row', found, rfl⟩ := Option.map_eq_some_iff.mp stored
  have same := workflowSaid.replies faultless
  simp only [MemoryStore.Replies, found, MemoryStore.found, Except.ok.injEq] at same
  cases nodesSaid.replies faultless
  cases edgesSaid.replies faultless
  rw [same]

/-- Where no call fails, a workflow that is stored is not gone. -/
theorem Steady.not_gone (faultless : env.Faultless) {id : Uuid}
    (missing : Steady env first (.store (.getWorkflow id)) (.error .notFound))
    (stored : first.workflow? id = some workflow) : False := by
  obtain ⟨row, found, -⟩ := Option.map_eq_some_iff.mp stored
  have reply := missing.replies faultless
  simp only [MemoryStore.Replies, found, MemoryStore.found] at reply
  cases reply

/-- Where no call fails, the run of an execution walks the graph of its workflow, if it can be entered at a node. -/
theorem Concluded.walks {e : Execution} {visits : List Visit} {outcome : Traversal} {trigger : Node}
    (h : Concluded (Steady env first) x e visits outcome) (faultless : env.Faultless)
    (stored : first.workflow? e.workflowId = some workflow) (entry : Executor.entry (.ofWorkflow workflow) = .ok trigger) :
    outcome = .ended visits.length (visits.any Visit.failed) ∧
      Trail (.ofWorkflow workflow) (Executor.Possible (Steady env first) x e) x.maxSteps (.new e.payload) (some trigger)
        visits := by
  cases h with
  | gone missing => exact (Steady.not_gone faultless missing stored).elim
  | defective loaded defective =>
      rw [loaded.eq_stored faultless stored, entry] at defective
      cases defective
  | walked loaded found trail =>
      rw [loaded.eq_stored faultless stored] at found trail
      cases found.symm.trans entry
      exact ⟨rfl, trail⟩

/-- A graph with one trigger and no reserved id can be walked from its trigger. -/
theorem Executor.entry_ok {trigger : Node} (one : workflow.nodes.filter (fun n => n.kind = .trigger) = [trigger])
    (unreserved : ∀ n ∈ workflow.nodes, n.id ∉ reservedKeys) : entry (.ofWorkflow workflow) = .ok trigger := by
  have free : (workflow.nodes.find? fun n => reservedKeys.contains n.id) = none := by
    rw [List.find?_eq_none]
    intro n member
    simpa using unreserved n member
  simp only [entry, Graph.checkReserved, Graph.trigger, Graph.ofWorkflow, free, one]
  rfl

/-- The step log of a run is a legal walk of the graph, whatever handlers do and however the outside behaves, if no
call to the store fails.  The run succeeds, and its summary and its record tell of the walk. -/
theorem run_legal (x : Executor) {w : World MemoryStore} {trigger : Node} {text : String}
    (there : w.store.executions.find? base.id = some base) (pending : base.status = ExecutionStatus.pending.name)
    (stored : w.store.workflow? base.workflowId = some workflow)
    (one : workflow.nodes.filter (fun n => n.kind = .trigger) = [trigger])
    (unreserved : ∀ n ∈ workflow.nodes, n.id ∉ reservedKeys) (faultless : env.Faultless)
    (named : Executor.readId text = .ok base.id) :
    let ran := (x.runNamed text).run.run env w
    ∃ summary row steps, ran.1 = some (.ok summary) ∧
      ran.2.store.Holds base.id (some row) (w.store.stepsOf base.id ++ steps.map Prod.snd) ∧
      LegalWalk (.ofWorkflow workflow) base.payload x.maxSteps (.new base.payload) (some trigger) steps ∧
      summary.stepsExecuted = steps.length ∧
      (summary.success = true ↔ ∀ s ∈ steps, s.2.status ≠ StepStatus.failed.name) ∧
      row.status = (if summary.success then ExecutionStatus.completed else .failed).name ∧ row.error = none := by
  intro ran
  obtain ⟨r, result, accomplished⟩ := x.run_accomplished faultless there pending named
  cases accomplished with
  | @intro e clock now visits outcome rows read concluded logged holds =>
      rw [← ExecutionRow.toExecution_workflowId read] at stored
      obtain ⟨rfl, trail⟩ := concluded.walks faultless stored (Executor.entry_ok one unreserved)
      obtain ⟨steps, rfl, legal⟩ := trail.legal logged
      rw [ExecutionRow.toExecution_payload read] at legal
      have count : visits.length = steps.length := by simpa using logged.length_eq
      have none_failed := logged.none_failed_iff
      refine ⟨_, _, steps, result, holds, legal, count, ?_, ?_, rfl⟩
      · rw [List.forall_mem_map] at none_failed
        rw [← none_failed]
        simp [Traversal.summary, RunClock.ended, Traversal.ended, ExecutionStatus.ofOutcome]
      · simp only [Traversal.summary, RunClock.ended, Traversal.ended]
        cases failed : visits.any Visit.failed <;> rfl

/-- The node that the sample workflow begins with. -/
def messageTrigger : Node := ⟨"start", .trigger, none, []⟩

theorem run_legal_message :
    let ran := (Executor.runNamed ⟨.builtins 1000 1000, 5, 0⟩ messageExecution.id.render).run.run .calm
      (.start messageStore)
    ∃ summary steps, ran.1 = some (.ok summary) ∧
      LegalWalk (.ofWorkflow messageRows.toWorkflow) .null 5 (.new .null) (some messageTrigger) steps ∧
      summary.stepsExecuted = steps.length := by
  have stored : messageStore.workflow? .nil = some messageRows.toWorkflow := rfl
  have one : messageRows.toWorkflow.nodes.filter (fun n => n.kind = .trigger) = [messageTrigger] := rfl
  have unreserved : ∀ n ∈ messageRows.toWorkflow.nodes, n.id ∉ reservedKeys := by decide +kernel
  obtain ⟨summary, row, steps, ended, -, legal, count, -⟩ := run_legal ⟨.builtins 1000 1000, 5, 0⟩
    (w := .start messageStore) messageStore_holds rfl stored one unreserved Environment.calm_faultless readId_message
  exact ⟨summary, steps, ended, legal, count⟩

end WorkflowEngine
