/-
Module: WorkflowEngine.Proofs.Validity
Layer: Proofs
Purpose: What makes a workflow valid, and what is wrong with one that is not.  Each check goes through a list and stops
  at the first item that breaks its rule, so a check that passes speaks for all items, and one that stops names what
  it has seen.  Validation accepts the valid workflows and no others, and a defect that it reports is there, whatever
  else is wrong with the workflow (`Workflow.validate_verdict`).
Imports: Mathlib.Data.List.Duplicate, WorkflowEngine.Workflow.Validation
Trusted boundary: none
Main exports: Workflow.Sound, Workflow.sound_of_validate, Workflow.Valid, Workflow.Has, Workflow.Has.not_valid,
  Workflow.validate_verdict
-/
import Mathlib.Data.List.Duplicate
import WorkflowEngine.Workflow.Validation

namespace WorkflowEngine

theorem Except.of_bind {ε α β : Type} {e : Except ε α} {f : α → Except ε β} {b : β} (ok : e >>= f = .ok b) :
    ∃ a, e = .ok a ∧ f a = .ok b := by
  cases e with
  | error reason => cases ok
  | ok a => exact ⟨a, rfl, ok⟩

theorem Except.error_of_bind {ε α β : Type} {e : Except ε α} {f : α → Except ε β} {reason : ε}
    (error : e >>= f = .error reason) : e = .error reason ∨ ∃ a, e = .ok a ∧ f a = .error reason := by
  cases e with
  | error other =>
      cases error
      exact .inl rfl
  | ok a => exact .inr ⟨a, rfl, error⟩

/-! ## Valid workflows and defects -/

/-- The rules for workflows. -/
structure Workflow.Valid (w : Workflow) : Prop where
  unreserved : ∀ n ∈ w.nodes, n.id ∉ reservedKeys
  distinct : (w.nodes.map (·.id)).Nodup
  distinctEdges : (w.edges.map (·.id)).Nodup
  joined : ∀ e ∈ w.edges, e.source ∈ w.nodes.map (·.id) ∧ e.target ∈ w.nodes.map (·.id)
  one : ∃ trigger, w.nodes.filter (fun n => n.kind = .trigger) = [trigger]
  readable : ∀ n ∈ w.nodes, n.kind = .condition → Expression.read? n.conditionText.toList ≠ none

/-- The id at an end of an edge. -/
def Edge.endAt (e : Edge) : Side → String
  | .source => e.source
  | .target => e.target

/-- The workflow has a defect. -/
inductive Workflow.Has (w : Workflow) : Defect → Prop where
  | reservedNodeId {n : Node} (member : n ∈ w.nodes) (reserved : n.id ∈ reservedKeys) : w.Has (.reservedNodeId n.id)
  | duplicateNodeId {id : String} (twice : List.Duplicate id (w.nodes.map (·.id))) : w.Has (.duplicateNodeId id)
  | duplicateEdgeId {id : String} (twice : List.Duplicate id (w.edges.map (·.id))) : w.Has (.duplicateEdgeId id)
  | unknownNode {e : Edge} {side : Side} (member : e ∈ w.edges) (unknown : e.endAt side ∉ w.nodes.map (·.id)) :
      w.Has (.unknownNode (e.endAt side) side)
  | missingTrigger (none : ∀ n ∈ w.nodes, n.kind ≠ .trigger) : w.Has .missingTrigger
  | multipleTriggers (several : 2 ≤ (w.nodes.filter fun n => n.kind = .trigger).length) : w.Has .multipleTriggers
  | invalidCondition {n : Node} (member : n ∈ w.nodes) (branch : n.kind = .condition)
      (unreadable : Expression.read? n.conditionText.toList = none) : w.Has (.invalidCondition n.id n.conditionText)

/-- Each defect breaks a rule. -/
theorem Workflow.Has.not_valid {w : Workflow} {d : Defect} (has : w.Has d) : ¬ w.Valid := by
  intro valid
  cases has with
  | reservedNodeId member reserved => exact valid.unreserved _ member reserved
  | duplicateNodeId twice => exact twice.not_nodup valid.distinct
  | duplicateEdgeId twice => exact twice.not_nodup valid.distinctEdges
  | @unknownNode e side member unknown =>
      cases side with
      | source => exact unknown (valid.joined e member).1
      | target => exact unknown (valid.joined e member).2
  | missingTrigger none =>
      obtain ⟨trigger, one⟩ := valid.one
      have found : trigger ∈ w.nodes.filter fun n => n.kind = .trigger := by simp [one]
      obtain ⟨member, kind⟩ := List.mem_filter.mp found
      exact none trigger member (of_decide_eq_true kind)
  | multipleTriggers several =>
      obtain ⟨trigger, one⟩ := valid.one
      simp [one] at several
  | invalidCondition member branch unreadable => exact valid.readable _ member branch unreadable

/-! ## The checks -/

/-- An id that is moved from those to come to those seen stands twice as it did before. -/
theorem duplicate_middle {id a : String} {seen later : List String} :
    List.Duplicate id (seen ++ a :: later) ↔ List.Duplicate id (a :: (seen ++ later)) := by
  rw [List.duplicate_iff_two_le_count, List.duplicate_iff_two_le_count, List.perm_middle.count_eq]

/-- Node ids that pass are not reserved, and no two of those seen and those to come are equal. -/
theorem checkNodeIds_ok {seen : List String} {nodes : List Node} (distinct : seen.Nodup)
    (ok : checkNodeIds seen nodes = .ok ()) :
    (∀ n ∈ nodes, n.id ∉ reservedKeys) ∧ (seen ++ nodes.map (·.id)).Nodup := by
  induction nodes generalizing seen with
  | nil => simpa using distinct
  | cons n rest ih =>
      unfold checkNodeIds at ok
      split at ok
      · cases ok
      · rename_i free
        split at ok
        · cases ok
        · rename_i fresh
          rw [List.contains_iff_mem] at free fresh
          obtain ⟨unreserved, distinct⟩ := ih (List.nodup_cons.mpr ⟨fresh, distinct⟩) ok
          exact ⟨List.forall_mem_cons.mpr ⟨free, unreserved⟩, List.nodup_middle.mpr distinct⟩

/-- Where the check of node ids stops, it names one that is reserved, or that stands twice among those seen and those
to come. -/
theorem checkNodeIds_error {seen : List String} {nodes : List Node} {d : Defect}
    (error : checkNodeIds seen nodes = .error d) :
    (∃ n ∈ nodes, n.id ∈ reservedKeys ∧ d = .reservedNodeId n.id) ∨
      ∃ id, List.Duplicate id (seen ++ nodes.map (·.id)) ∧ d = .duplicateNodeId id := by
  induction nodes generalizing seen with
  | nil => cases error
  | cons n rest ih =>
      unfold checkNodeIds at error
      rw [List.map_cons]
      split at error
      · rename_i reserved
        cases error
        exact .inl ⟨n, List.mem_cons_self, List.contains_iff_mem.mp reserved, rfl⟩
      · split at error
        · rename_i again
          cases error
          have met : n.id ∈ seen := List.contains_iff_mem.mp again
          exact .inr ⟨n.id, duplicate_middle.mpr (List.Mem.duplicate_cons_self (List.mem_append_left _ met)), rfl⟩
        · rcases ih error with ⟨m, later, reserved, named⟩ | ⟨id, twice, named⟩
          · exact .inl ⟨m, List.mem_cons_of_mem _ later, reserved, named⟩
          · exact .inr ⟨id, duplicate_middle.mpr twice, named⟩

/-- Edges that pass join nodes, and no two ids of those seen and those to come are equal. -/
theorem checkEdges_ok {nodeIds seen : List String} {edges : List Edge} (distinct : seen.Nodup)
    (ok : checkEdges nodeIds seen edges = .ok ()) :
    (seen ++ edges.map (·.id)).Nodup ∧ ∀ e ∈ edges, e.source ∈ nodeIds ∧ e.target ∈ nodeIds := by
  induction edges generalizing seen with
  | nil => simpa using distinct
  | cons e rest ih =>
      unfold checkEdges at ok
      split at ok
      · cases ok
      · rename_i fresh
        split at ok
        · cases ok
        · rename_i source
          split at ok
          · cases ok
          · rename_i target
            simp only [Bool.not_eq_true', Bool.not_eq_false, List.contains_iff_mem] at fresh source target
            obtain ⟨distinct, joined⟩ := ih (List.nodup_cons.mpr ⟨fresh, distinct⟩) ok
            exact ⟨List.nodup_middle.mpr distinct, List.forall_mem_cons.mpr ⟨⟨source, target⟩, joined⟩⟩

/-- Where the check of edges stops, it names an id that stands twice among those seen and those to come, or an end that
is no node's. -/
theorem checkEdges_error {nodeIds seen : List String} {edges : List Edge} {d : Defect}
    (error : checkEdges nodeIds seen edges = .error d) :
    (∃ id, List.Duplicate id (seen ++ edges.map (·.id)) ∧ d = .duplicateEdgeId id) ∨
      ∃ e ∈ edges, ∃ side, e.endAt side ∉ nodeIds ∧ d = .unknownNode (e.endAt side) side := by
  induction edges generalizing seen with
  | nil => cases error
  | cons e rest ih =>
      unfold checkEdges at error
      rw [List.map_cons]
      split at error
      · rename_i again
        cases error
        have met : e.id ∈ seen := List.contains_iff_mem.mp again
        exact .inl ⟨e.id, duplicate_middle.mpr (List.Mem.duplicate_cons_self (List.mem_append_left _ met)), rfl⟩
      · split at error
        · rename_i unknown
          cases error
          have away : e.source ∉ nodeIds := by simpa using unknown
          exact .inr ⟨e, List.mem_cons_self, .source, away, rfl⟩
        · split at error
          · rename_i unknown
            cases error
            have away : e.target ∉ nodeIds := by simpa using unknown
            exact .inr ⟨e, List.mem_cons_self, .target, away, rfl⟩
          · rcases ih error with ⟨id, twice, named⟩ | ⟨o, later, side, unknown, named⟩
            · exact .inl ⟨id, duplicate_middle.mpr twice, named⟩
            · exact .inr ⟨o, List.mem_cons_of_mem _ later, side, unknown, named⟩

theorem Graph.trigger_ok {w : Workflow} {trigger : Node} (ok : (ofWorkflow w).trigger = .ok trigger) :
    w.nodes.filter (fun n => n.kind = .trigger) = [trigger] := by
  unfold Graph.trigger at ok
  split at ok
  · cases ok
  · rename_i one
    cases ok
    exact one
  · cases ok

/-- Where no trigger is found, there is none, or there are several. -/
theorem Graph.trigger_error {w : Workflow} {d : Defect} (error : (ofWorkflow w).trigger = .error d) : w.Has d := by
  unfold Graph.trigger at error
  generalize found : (ofWorkflow w).workflow.nodes.filter (fun n => n.kind = .trigger) = triggers at error
  change w.nodes.filter _ = _ at found
  match triggers, found, error with
  | [], found, rfl =>
      apply Workflow.Has.missingTrigger
      intro n member kind
      have none := List.filter_eq_nil_iff.mp found n member
      simp [kind] at none
  | _ :: _ :: _, found, rfl =>
      apply Workflow.Has.multipleTriggers
      simp [found]

theorem checkConditions_ok {nodes : List Node} (ok : checkConditions nodes = .ok ()) :
    ∀ n ∈ nodes, n.kind = .condition → Expression.read? n.conditionText.toList ≠ none := by
  induction nodes with
  | nil => simp
  | cons n rest ih =>
      unfold checkConditions at ok
      split at ok
      · cases ok
      · rename_i readable
        rw [List.forall_mem_cons]
        exact ⟨fun kind unread => readable ⟨kind, unread⟩, ih ok⟩

/-- Where the check of conditions stops, it names a branch whose condition cannot be read. -/
theorem checkConditions_error {nodes : List Node} {d : Defect} (error : checkConditions nodes = .error d) :
    ∃ n ∈ nodes, n.kind = .condition ∧ Expression.read? n.conditionText.toList = none ∧
      d = .invalidCondition n.id n.conditionText := by
  induction nodes with
  | nil => cases error
  | cons n rest ih =>
      unfold checkConditions at error
      split at error
      · rename_i unreadable
        cases error
        exact ⟨n, List.mem_cons_self, unreadable.1, unreadable.2, rfl⟩
      · obtain ⟨m, later, found⟩ := ih error
        exact ⟨m, List.mem_cons_of_mem _ later, found⟩

/-! ## Validation -/

/-- A workflow that is accepted is valid, and the ids that are listed are those that its trigger reaches. -/
theorem Workflow.of_validate {w : Workflow} {reached : List String} (accepted : w.validate = .ok reached) :
    w.Valid ∧ ∃ trigger, w.nodes.filter (fun n => n.kind = .trigger) = [trigger] ∧
      reached = (Graph.ofWorkflow w).reachable trigger.id := by
  unfold validate at accepted
  obtain ⟨⟨⟩, nodes, accepted⟩ := Except.of_bind accepted
  obtain ⟨⟨⟩, edges, accepted⟩ := Except.of_bind accepted
  obtain ⟨trigger, entry, accepted⟩ := Except.of_bind accepted
  obtain ⟨⟨⟩, conditions, accepted⟩ := Except.of_bind accepted
  obtain ⟨unreserved, distinct⟩ := checkNodeIds_ok List.nodup_nil nodes
  obtain ⟨distinctEdges, joined⟩ := checkEdges_ok List.nodup_nil edges
  have one := Graph.trigger_ok entry
  cases accepted
  exact ⟨⟨unreserved, distinct, distinctEdges, joined, ⟨trigger, one⟩, checkConditions_ok conditions⟩,
    trigger, one, rfl⟩

/-- A defect that is reported is there. -/
theorem Workflow.has_of_validate {w : Workflow} {d : Defect} (refused : w.validate = .error d) : w.Has d := by
  unfold validate at refused
  rcases Except.error_of_bind refused with nodes | ⟨⟨⟩, -, refused⟩
  · rcases checkNodeIds_error nodes with ⟨n, member, reserved, rfl⟩ | ⟨id, twice, rfl⟩
    · exact .reservedNodeId member reserved
    · exact .duplicateNodeId twice
  rcases Except.error_of_bind refused with edges | ⟨⟨⟩, -, refused⟩
  · rcases checkEdges_error edges with ⟨id, twice, rfl⟩ | ⟨e, member, side, unknown, rfl⟩
    · exact .duplicateEdgeId twice
    · exact .unknownNode member unknown
  rcases Except.error_of_bind refused with entry | ⟨trigger, -, refused⟩
  · exact Graph.trigger_error entry
  rcases Except.error_of_bind refused with conditions | ⟨⟨⟩, -, refused⟩
  · obtain ⟨n, member, branch, unreadable, rfl⟩ := checkConditions_error conditions
    exact .invalidCondition member branch unreadable
  · cases refused

/-- What validation makes sure of, as far as runs depend on it. -/
structure Workflow.Sound (w : Workflow) (trigger : Node) : Prop where
  unreserved : ∀ n ∈ w.nodes, n.id ∉ reservedKeys
  distinct : (w.nodes.map (·.id)).Nodup
  one : w.nodes.filter (fun n => n.kind = .trigger) = [trigger]
  readable : ∀ n ∈ w.nodes, n.kind = .condition → Expression.read? n.conditionText.toList ≠ none

/-- A workflow that is found valid is sound, and the ids that are listed are those that its trigger reaches. -/
theorem Workflow.sound_of_validate {w : Workflow} {reached : List String} (accepted : w.validate = .ok reached) :
    ∃ trigger, w.Sound trigger ∧ reached = (Graph.ofWorkflow w).reachable trigger.id := by
  obtain ⟨valid, trigger, one, listed⟩ := of_validate accepted
  exact ⟨trigger, ⟨valid.unreserved, valid.distinct, one, valid.readable⟩, listed⟩

/-- Validation accepts a workflow just if it is valid, and where it refuses one, the defect that it names is there. -/
theorem Workflow.validate_verdict (w : Workflow) :
    ((∃ reached, w.validate = .ok reached) ↔ w.Valid) ∧ ∀ d, w.validate = .error d → w.Has d := by
  refine ⟨⟨?_, ?_⟩, fun d => has_of_validate⟩
  · rintro ⟨reached, accepted⟩
    exact (of_validate accepted).1
  · intro valid
    cases verdict : w.validate with
    | ok reached => exact ⟨reached, rfl⟩
    | error d => exact absurd valid (has_of_validate verdict).not_valid

end WorkflowEngine
