/-
Module: WorkflowEngine.Proofs.Trail
Layer: Proofs
Purpose: The visits of a walk through a graph, whatever the nodes put out.  A trail says which node comes after
  which and where a walk stops, without the process that walks; what the nodes can put out is a parameter.  If
  every visit has one result, then so has a walk (`Trail.unique`).
Imports: Mathlib.Data.List.Forall2, WorkflowEngine.Execution.Executor
Trusted boundary: none
Main exports: Visit, Visit.Recorded, Trail, Trail.unique, Trail.length_le, Logged
-/
import Mathlib.Data.List.Forall2
import WorkflowEngine.Execution.Executor

namespace WorkflowEngine

/-- One visit of a node: what it saw, and what came of it. -/
structure Visit where
  node : Node
  context : Context
  result : Except String NodeOutput

namespace Visit

/-- Whether the visit failed. -/
def failed (v : Visit) : Bool :=
  match v.result with
  | .ok _ => false
  | .error _ => true

/-- The state of the step that records the visit. -/
def status (v : Visit) : StepStatus := if v.failed then .failed else .completed

/-- A step records a visit, under some id and with some readings of the clock. -/
def Recorded (executionId : Uuid) (v : Visit) (row : StepRow) : Prop :=
  ∃ id startedAt completedAt,
    row = (Executor.stepOf id executionId v.node v.context startedAt completedAt v.result).row

namespace Recorded

variable {executionId : Uuid} {v : Visit} {row : StepRow}

theorem executionId_eq (h : v.Recorded executionId row) : row.executionId = executionId := by
  obtain ⟨id, startedAt, completedAt, rfl⟩ := h
  cases v.result <;> rfl

theorem nodeId_eq (h : v.Recorded executionId row) : row.nodeId = v.node.id := by
  obtain ⟨id, startedAt, completedAt, rfl⟩ := h
  cases v.result <;> rfl

theorem status_eq (h : v.Recorded executionId row) : row.status = v.status.name := by
  obtain ⟨id, startedAt, completedAt, rfl⟩ := h
  obtain ⟨node, context, result⟩ := v
  cases result <;> rfl

theorem input_eq (h : v.Recorded executionId row) : row.input = v.context.summary := by
  obtain ⟨id, startedAt, completedAt, rfl⟩ := h
  cases v.result <;> rfl

theorem output_eq (h : v.Recorded executionId row) {output : NodeOutput} (result : v.result = .ok output) :
    row.output = output.toJson := by
  obtain ⟨id, startedAt, completedAt, rfl⟩ := h
  rw [result]
  rfl

end Recorded

end Visit

/-- Steps record visits, one by one. -/
abbrev Logged (executionId : Uuid) : List Visit → List StepRow → Prop :=
  List.Forall₂ (Visit.Recorded executionId)

/-! ## Trails -/

/-- The visits of a walk from a node, or from nowhere, when so many steps are left.  `possible` says what can
come of a visit.  A walk stops where there is no node, when no step is left, after a visit that failed, and
after a terminal node. -/
inductive Trail (g : Graph) (possible : Node → Context → Except String NodeOutput → Prop) :
    Nat → Context → Option Node → List Visit → Prop where
  | astray {left : Nat} {context : Context} : Trail g possible left context none []
  | spent {context : Context} {node : Node} : Trail g possible 0 context (some node) []
  | failed {left : Nat} {context : Context} {node : Node} {message : String}
      (visited : possible node context (.error message)) :
      Trail g possible (left + 1) context (some node) [⟨node, context, .error message⟩]
  | arrived {left : Nat} {context : Context} {node : Node} {output : NodeOutput}
      (visited : possible node context (.ok output)) (terminal : node.kind = .terminal) :
      Trail g possible (left + 1) context (some node) [⟨node, context, .ok output⟩]
  | onward {left : Nat} {context : Context} {node : Node} {output : NodeOutput} {visits : List Visit}
      (visited : possible node context (.ok output)) (inner : node.kind ≠ .terminal)
      (rest : Trail g possible left (Executor.extend context node output)
        (g.next? node (Executor.extend context node output).conditionResult?) visits) :
      Trail g possible (left + 1) context (some node) (⟨node, context, .ok output⟩ :: visits)

namespace Trail

variable {g : Graph} {possible : Node → Context → Except String NodeOutput → Prop} {left : Nat}
  {context : Context} {node : Option Node} {visits : List Visit}

/-- There are no more visits than steps. -/
theorem length_le (h : Trail g possible left context node visits) : visits.length ≤ left := by
  induction h with
  | astray => exact Nat.zero_le _
  | spent => exact Nat.le_refl _
  | failed => exact Nat.succ_le_succ (Nat.zero_le _)
  | arrived => exact Nat.succ_le_succ (Nat.zero_le _)
  | onward visited inner rest ih => exact Nat.succ_le_succ ih

/-- Where every visit has one result, there is one trail. -/
theorem unique (one : ∀ n c a b, possible n c a → possible n c b → a = b)
    (h : Trail g possible left context node visits) {others : List Visit}
    (k : Trail g possible left context node others) : visits = others := by
  induction h generalizing others with
  | astray => cases k; rfl
  | spent => cases k; rfl
  | failed visited =>
      cases k with
      | failed visited' =>
          cases one _ _ _ _ visited visited'
          rfl
      | arrived visited' => cases one _ _ _ _ visited visited'
      | onward visited' => cases one _ _ _ _ visited visited'
  | arrived visited terminal =>
      cases k with
      | failed visited' => cases one _ _ _ _ visited visited'
      | arrived visited' =>
          cases one _ _ _ _ visited visited'
          rfl
      | onward visited' inner' => exact absurd terminal inner'
  | onward visited inner rest ih =>
      cases k with
      | failed visited' => cases one _ _ _ _ visited visited'
      | arrived visited' terminal' => exact absurd terminal' inner
      | onward visited' inner' rest' =>
          cases one _ _ _ _ visited visited'
          rw [ih rest']

/-- No visit failed, or the last one did and no other. -/
theorem failed_last (h : Trail g possible left context node visits) :
    (∀ v ∈ visits, v.failed = false) ∨
      ∃ before last, visits = before ++ [last] ∧ last.failed = true ∧ ∀ v ∈ before, v.failed = false := by
  induction h with
  | astray => exact .inl (by simp)
  | spent => exact .inl (by simp)
  | failed => exact .inr ⟨[], _, rfl, rfl, by simp⟩
  | arrived => exact .inl (by simp [Visit.failed])
  | onward visited inner rest ih =>
      rcases ih with sound | ⟨before, last, rfl, lastFailed, sound⟩
      · exact .inl (by simpa [Visit.failed] using sound)
      · exact .inr ⟨_ :: before, last, rfl, lastFailed, by simpa [Visit.failed] using sound⟩

end Trail

end WorkflowEngine
