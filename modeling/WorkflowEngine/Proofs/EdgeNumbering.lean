/-
Module: WorkflowEngine.Proofs.EdgeNumbering
Layer: Proofs
Purpose: The ids of edges that a workflow file leaves out.  Such an edge is numbered by its position, and no number is
  given twice; but nothing keeps a file from writing a number as the id of another edge.  So the stored ids are
  distinct exactly where the file writes none of the numbers that it leaves to be given, and a file that does is
  refused although no id is written twice in it (`edge_ids_clash`, `numbered_edge_can_clash`).
Imports: Mathlib.Data.List.NodupEquivFin, WorkflowEngine.Proofs.Numerals, WorkflowEngine.Proofs.Validity,
  WorkflowEngine.Workflow.Definition
Trusted boundary: none
Main exports: edgeNumber_injective, Definition.Clashes, Definition.duplicate_edgeIds_iff, edge_ids_clash,
  numbered_edge_can_clash
-/
import Mathlib.Data.List.NodupEquivFin
import WorkflowEngine.Proofs.Numerals
import WorkflowEngine.Proofs.Validity
import WorkflowEngine.Workflow.Definition

namespace WorkflowEngine

/-- The id of an edge at a position that is written without one. -/
def edgeNumber (position : Nat) : String := "e" ++ toString position

/-- No number is given twice. -/
theorem edgeNumber_injective : Function.Injective edgeNumber := by
  intro i j same
  have chars := congrArg String.toList same
  simp only [edgeNumber, String.toList_append, List.append_cancel_left_eq] at chars
  rwa [Nat.toString_eq_repr, Nat.toString_eq_repr, Nat.toList_repr, Nat.toList_repr, toDigits_inj] at chars

/-- An item stands twice in a list just if it stands at two positions. -/
theorem duplicate_iff_positions {α : Type} {a : α} {l : List α} :
    List.Duplicate a l ↔ ∃ i j : Nat, i < j ∧ l[i]? = some a ∧ l[j]? = some a := by
  rw [List.duplicate_iff_exists_distinct_get]
  constructor
  · rintro ⟨i, j, before, first, second⟩
    exact ⟨i, j, before, List.getElem?_eq_some_iff.mpr ⟨i.isLt, first.symm⟩,
      List.getElem?_eq_some_iff.mpr ⟨j.isLt, second.symm⟩⟩
  · rintro ⟨i, j, before, first, second⟩
    obtain ⟨inFirst, first⟩ := List.getElem?_eq_some_iff.mp first
    obtain ⟨inSecond, second⟩ := List.getElem?_eq_some_iff.mp second
    exact ⟨⟨i, inFirst⟩, ⟨j, inSecond⟩, before, first.symm, second.symm⟩

namespace Definition

variable {d : Definition} {id : String} {i j : Nat}

/-- The ids that a file writes for its edges. -/
def writtenEdgeIds (d : Definition) : List String := d.edges.filterMap (·.id)

/-- The id is written for the edge at a position. -/
def WritesAt (d : Definition) (i : Nat) (id : String) : Prop := ∃ e, d.edges[i]? = some e ∧ e.id = some id

/-- The edge at a position is written without an id, and the id is its number. -/
def NumbersAt (d : Definition) (i : Nat) (id : String) : Prop :=
  ∃ e, d.edges[i]? = some e ∧ e.id = none ∧ edgeNumber i = id

/-- The id is written for one edge, and it is the number of another one. -/
def Clashes (d : Definition) (id : String) : Prop := (∃ i, d.WritesAt i id) ∧ ∃ j, d.NumbersAt j id

/-! ## Stored ids -/

/-- The ids that the edges of a file are stored with. -/
def edgeIds (d : Definition) : List String := d.edges.zipIdx.map fun (e, i) => e.id.getD (edgeNumber i)

theorem rows_edgeIds (d : Definition) (now : Instant) : (d.rows now).edges.map (·.id) = d.edgeIds := by
  simp [rows, edgeIds, edgeNumber, EdgeDefinition.row]

theorem toWorkflow_edgeIds (d : Definition) : d.toWorkflow.edges.map (·.id) = d.edgeIds := by
  rw [← d.rows_edgeIds 0]
  simp [toWorkflow, Rows.toWorkflow, Workflow.ofRows, EdgeRow.toEdge]

/-- A stored id is written for its edge, or the number of its edge. -/
theorem edgeIds_eq_some_iff : d.edgeIds[i]? = some id ↔ d.WritesAt i id ∨ d.NumbersAt i id := by
  have place : d.edgeIds[i]? = d.edges[i]?.map fun e => e.id.getD (edgeNumber i) := by
    simp [edgeIds, List.getElem?_map, List.getElem?_zipIdx, Option.map_map, Function.comp_def]
  rw [place, Option.map_eq_some_iff]
  constructor
  · rintro ⟨e, there, own⟩
    cases written : e.id with
    | some other =>
        rw [written, Option.getD_some] at own
        exact .inl ⟨e, there, own ▸ written⟩
    | none =>
        rw [written, Option.getD_none] at own
        exact .inr ⟨e, there, written, own⟩
  · rintro (⟨e, there, own⟩ | ⟨e, there, unwritten, own⟩)
    · exact ⟨e, there, by rw [own, Option.getD_some]⟩
    · exact ⟨e, there, by rw [unwritten, Option.getD_none, own]⟩

/-- Where no id is written twice, it is written at one position. -/
theorem WritesAt.not_before (written : d.writtenEdgeIds.Nodup) (first : d.WritesAt i id) (second : d.WritesAt j id) :
    ¬ i < j := by
  intro before
  obtain ⟨e, atFirst, ownFirst⟩ := first
  obtain ⟨f, atSecond, ownSecond⟩ := second
  obtain ⟨inFirst, rfl⟩ := List.getElem?_eq_some_iff.mp atFirst
  obtain ⟨inSecond, rfl⟩ := List.getElem?_eq_some_iff.mp atSecond
  have apart := List.pairwise_iff_getElem.mp (List.pairwise_filterMap.mp written) i j inFirst inSecond before
  exact apart _ ownFirst _ ownSecond rfl

theorem NumbersAt.unique (first : d.NumbersAt i id) (second : d.NumbersAt j id) : i = j := by
  obtain ⟨_, -, -, own⟩ := first
  obtain ⟨_, -, -, other⟩ := second
  exact edgeNumber_injective (own.trans other.symm)

/-- An edge that is written with an id has no number. -/
theorem WritesAt.ne (writes : d.WritesAt i id) (numbers : d.NumbersAt j id) : i ≠ j := by
  rintro rfl
  obtain ⟨e, there, own⟩ := writes
  obtain ⟨f, same, none, -⟩ := numbers
  cases there.symm.trans same
  cases own.symm.trans none

/-- The ids that two edges are stored with are those that are written for one and number another. -/
theorem duplicate_edgeIds_iff (written : d.writtenEdgeIds.Nodup) : List.Duplicate id d.edgeIds ↔ d.Clashes id := by
  simp only [duplicate_iff_positions, edgeIds_eq_some_iff]
  constructor
  · rintro ⟨i, j, before, writes | numbers, writes' | numbers'⟩
    · exact absurd before (writes.not_before written writes')
    · exact ⟨⟨i, writes⟩, j, numbers'⟩
    · exact ⟨⟨j, writes'⟩, i, numbers⟩
    · exact absurd (numbers.unique numbers') (Nat.ne_of_lt before)
  · rintro ⟨⟨i, writes⟩, j, numbers⟩
    rcases Nat.lt_or_gt_of_ne (writes.ne numbers) with before | after
    · exact ⟨i, j, before, .inl writes, .inr numbers⟩
    · exact ⟨j, i, after, .inr numbers, .inl writes⟩

theorem nodup_edgeIds_iff (written : d.writtenEdgeIds.Nodup) : d.edgeIds.Nodup ↔ ∀ id, ¬ d.Clashes id := by
  rw [List.nodup_iff_forall_not_duplicate]
  exact forall_congr' fun id => not_congr (duplicate_edgeIds_iff written)

end Definition

/-- Where no id is written for two edges, the stored ids are distinct just if none of them is both written and given
as a number.  An id that validation reports as standing twice is such an id, and a file that has one is refused. -/
theorem edge_ids_clash {d : Definition} (written : d.writtenEdgeIds.Nodup) (now : Instant) :
    (((d.rows now).edges.map (·.id)).Nodup ↔ ∀ id, ¬ d.Clashes id) ∧
      (∀ id, d.toWorkflow.validate = .error (.duplicateEdgeId id) → d.Clashes id) ∧
        ∀ id, d.Clashes id → ∀ reached, d.toWorkflow.validate ≠ .ok reached := by
  refine ⟨?_, ?_, ?_⟩
  · rw [d.rows_edgeIds]
    exact Definition.nodup_edgeIds_iff written
  · intro id refused
    cases Workflow.has_of_validate refused with
    | duplicateEdgeId twice =>
        rw [d.toWorkflow_edgeIds] at twice
        exact (Definition.duplicate_edgeIds_iff written).mp twice
  · intro id clashes reached accepted
    have distinct := (Workflow.of_validate accepted).1.distinctEdges
    rw [d.toWorkflow_edgeIds] at distinct
    exact (Definition.nodup_edgeIds_iff written).mp distinct id clashes

/-- A file that writes the number of its second edge, which it leaves without an id, as the id of the first. -/
def numberedTwice : Definition where
  id := .nil
  name := ""
  nodes := [⟨"start", "trigger", none, none, .null⟩, ⟨"stop", "end", none, none, .null⟩]
  edges := [⟨some "e1", "start", "stop", none⟩, ⟨none, "stop", "start", none⟩]

theorem numberedTwice_clashes : numberedTwice.Clashes "e1" :=
  ⟨⟨0, _, rfl, rfl⟩, 1, _, rfl, rfl, rfl⟩

theorem edge_ids_clash_numberedTwice :
    numberedTwice.writtenEdgeIds.Nodup ∧ ∀ reached, numberedTwice.toWorkflow.validate ≠ .ok reached := by
  have written : numberedTwice.writtenEdgeIds.Nodup := List.nodup_singleton _
  obtain ⟨-, -, refused⟩ := edge_ids_clash written 0
  exact ⟨written, refused "e1" numberedTwice_clashes⟩

/-- Two edges can be stored with one id, and be reported for it, although the file writes no id twice. -/
theorem numbered_edge_can_clash :
    ¬ ∀ d : Definition, d.writtenEdgeIds.Nodup →
      ((d.rows 0).edges.map (·.id)).Nodup ∧ ∀ id, d.toWorkflow.validate ≠ .error (.duplicateEdgeId id) := by
  intro never
  obtain ⟨-, unreported⟩ := never numberedTwice (List.nodup_singleton _)
  exact unreported "e1" rfl

end WorkflowEngine
