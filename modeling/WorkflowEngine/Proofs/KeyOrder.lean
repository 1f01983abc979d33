/-
Module: WorkflowEngine.Proofs.KeyOrder
Layer: Proofs
Purpose: Objects whose members stand in strictly increasing key order, as every object that is made by insertion
  does.  In such an object a member is what is found under its key.
Imports: WorkflowEngine.Json.Value
Trusted boundary: none
Main exports: Json.Object.Ordered, Json.Object.Ordered.insert, Json.Object.ofList_ordered,
  Json.Object.Ordered.mem_iff_find?
-/
import WorkflowEngine.Json.Value

namespace WorkflowEngine.Json.Object

/-- The members stand in strictly increasing key order. -/
def Ordered (members : Object) : Prop := members.Pairwise fun a b => a.1 < b.1

variable {members : Object} {key : String} {value : Json}

/-- What insertion puts in, besides what was there. -/
theorem mem_of_mem_insert {m : String × Json} (member : m ∈ members.insert key value) :
    m = (key, value) ∨ m ∈ members := by
  induction members with
  | nil => exact .inl (List.mem_singleton.mp member)
  | cons head rest ih =>
      obtain ⟨k, v⟩ := head
      unfold insert at member
      split at member
      · exact List.mem_cons.mp member
      · split at member
        · rcases List.mem_cons.mp member with own | old
          · exact .inl own
          · exact .inr (List.mem_cons_of_mem _ old)
        · rcases List.mem_cons.mp member with first | later
          · exact .inr (first ▸ List.mem_cons_self)
          · rcases ih later with own | old
            · exact .inl own
            · exact .inr (List.mem_cons_of_mem _ old)

/-- A member comes after those with smaller keys. -/
theorem insert_after {k : String} {v : Json} (later : ¬ key < k) (other : key ≠ k) :
    insert ((k, v) :: members) key value = (k, v) :: members.insert key value := by
  rw [insert, if_neg later, if_neg other]

namespace Ordered

/-- Insertion keeps the order. -/
theorem insert (ordered : members.Ordered) : (members.insert key value).Ordered := by
  induction members with
  | nil => exact List.pairwise_singleton _ _
  | cons head rest ih =>
      obtain ⟨k, v⟩ := head
      obtain ⟨below, tail⟩ := List.pairwise_cons.mp ordered
      unfold Object.insert
      split
      · rename_i before
        apply List.pairwise_cons.mpr
        refine ⟨?_, ordered⟩
        intro m member
        rcases List.mem_cons.mp member with rfl | later
        · exact before
        · exact String.lt_trans before (below m later)
      · split
        · rename_i _ same
          subst same
          exact List.pairwise_cons.mpr ⟨below, tail⟩
        · rename_i notBefore other
          have after : k < key := by
            apply Decidable.byContradiction
            intro notAfter
            exact other (String.le_antisymm (String.not_lt.mp notAfter) (String.not_lt.mp notBefore))
          apply List.pairwise_cons.mpr
          refine ⟨?_, ih tail⟩
          intro m member
          rcases mem_of_mem_insert member with rfl | old
          · exact after
          · exact below m old

/-- In key order, a member is what is found under its key. -/
theorem mem_iff_find? (ordered : members.Ordered) : (key, value) ∈ members ↔ members.find? key = some value := by
  induction members with
  | nil => simp
  | cons head rest ih =>
      obtain ⟨k, v⟩ := head
      obtain ⟨below, tail⟩ := List.pairwise_cons.mp ordered
      rw [List.mem_cons, ih tail]
      simp only [find?, List.lookup_cons]
      by_cases same : key = k
      · subst same
        have absent : rest.lookup key ≠ some value := by
          intro found
          exact String.lt_irrefl key (below _ ((ih tail).mpr found))
        simp [absent, eq_comm]
      · simp [same, beq_eq_false_iff_ne.mpr same]

end Ordered

/-- Members in any order make an object in key order. -/
theorem ofList_ordered (ms : List (String × Json)) : (ofList ms).Ordered := by
  have fold : ∀ (ms : List (String × Json)) (members : Object), members.Ordered →
      (ms.foldl (fun o m => o.insert m.1 m.2) members).Ordered := by
    intro ms
    induction ms with
    | nil =>
        intro members ordered
        exact ordered
    | cons m ms ih =>
        intro members ordered
        exact ih _ ordered.insert
  exact fold ms [] List.Pairwise.nil

end WorkflowEngine.Json.Object
