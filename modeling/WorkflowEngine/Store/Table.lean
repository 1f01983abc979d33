/-
Module: WorkflowEngine.Store.Table
Layer: Store
Purpose: Finite maps keyed by id.
Imports: WorkflowEngine.Uuid
Trusted boundary: none
Main exports: Table, Table.find?, Table.put
-/
import WorkflowEngine.Uuid

/-!
# Tables

A table maps ids to values.  Its two laws say what is found after a value has been put under an id.
-/

namespace WorkflowEngine

/-- A finite map keyed by id. -/
structure Table (α : Type) where
  entries : List (Uuid × α)
  deriving Repr

namespace Table

variable {α : Type}

/-- The table that holds nothing. -/
def empty : Table α := ⟨[]⟩

instance : Inhabited (Table α) := ⟨empty⟩

/-- The value under an id. -/
def find? (t : Table α) (id : Uuid) : Option α := t.entries.lookup id

/-- The table with a value under an id, whatever was there before. -/
def put (t : Table α) (id : Uuid) (a : α) : Table α :=
  ⟨(id, a) :: t.entries.filter fun e => !decide (e.1 = id)⟩

@[simp] theorem find?_empty (id : Uuid) : (empty : Table α).find? id = none := rfl

@[simp] theorem find?_put_self (t : Table α) (id : Uuid) (a : α) : (t.put id a).find? id = some a := by
  simp [find?, put]

theorem lookup_filter_ne (entries : List (Uuid × α)) {id other : Uuid} (h : other ≠ id) :
    (entries.filter fun e => !decide (e.1 = id)).lookup other = entries.lookup other := by
  induction entries with
  | nil => rfl
  | cons e rest ih =>
      obtain ⟨k, v⟩ := e
      by_cases hk : k = id
      · subst hk
        have : (other == k) = false := by simp [h]
        simp [List.lookup_cons, this, ih]
      · simp only [hk, decide_false, Bool.not_false, List.filter_cons_of_pos, List.lookup_cons, ih]

@[simp] theorem find?_put_ne (t : Table α) {id other : Uuid} (a : α) (h : other ≠ id) :
    (t.put id a).find? other = t.find? other := by
  have : (other == id) = false := by simp [h]
  simp [find?, put, List.lookup_cons, this, lookup_filter_ne _ h]

end Table

end WorkflowEngine
