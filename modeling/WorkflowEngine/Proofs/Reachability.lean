/-
Module: WorkflowEngine.Proofs.Reachability
Layer: Proofs
Purpose: What the search for reachable nodes returns.  Its fuel lasts, because every round takes one id from the queue
  and every id that is queued was not met before; so the search is the loop that goes on until nothing is queued
  (`Graph.reachable_searches`).  What such a loop finds is its queue and all that the edges from what it finds discover
  (`Graph.Searches.eq_append`), and so no edge leads out of what can be reached (`Graph.reachable_closed`).
Imports: Mathlib.Data.List.Nodup, Mathlib.Data.List.Perm.Subperm, WorkflowEngine.Proofs.GraphIndex,
  WorkflowEngine.Proofs.Validity
Trusted boundary: none
Main exports: Graph.discover_append, Graph.Searches, Graph.reachable_searches, Graph.Searches.eq_append,
  Graph.reachable_closed
-/
import Mathlib.Data.List.Nodup
import Mathlib.Data.List.Perm.Subperm
import WorkflowEngine.Proofs.GraphIndex
import WorkflowEngine.Proofs.Validity

namespace WorkflowEngine

/-- Where keys are distinct, one row at most has a given key. -/
theorem length_filter_key_le_one {α κ : Type} [DecidableEq κ] {key : α → κ} {rows : List α}
    (distinct : (rows.map key).Nodup) (k : κ) : (rows.filter fun row => key row = k).length ≤ 1 := by
  have once := List.nodup_iff_count_le_one.mp distinct k
  rw [List.count, List.countP_map, List.countP_eq_length_filter] at once
  refine le_of_eq_of_le (congrArg List.length (List.filter_congr fun row _ => ?_)) once
  rfl

namespace Graph

/-! ## Discovery -/

theorem mem_discover {visited : List String} {edges : List Edge} {id : String} :
    id ∈ discover visited edges ↔ id ∉ visited ∧ ∃ e ∈ edges, e.target = id := by
  induction edges generalizing visited with
  | nil => simp [discover]
  | cons e rest ih =>
      unfold discover
      by_cases met : e.target ∈ visited
      · simp only [List.contains_iff_mem, met, if_true, ih, List.exists_mem_cons_iff]
        constructor
        · exact fun ⟨fresh, leads⟩ => ⟨fresh, .inr leads⟩
        · rintro ⟨fresh, rfl | leads⟩
          · exact absurd met fresh
          · exact ⟨fresh, leads⟩
      · rw [List.exists_mem_cons_iff]
        simp only [List.contains_iff_mem, met, if_false, List.mem_cons, ih, not_or]
        constructor
        · rintro (rfl | ⟨⟨-, fresh⟩, leads⟩)
          · exact ⟨met, .inl rfl⟩
          · exact ⟨fresh, .inr leads⟩
        · rintro ⟨fresh, rfl | leads⟩
          · exact .inl rfl
          · by_cases first : id = e.target
            · exact .inl first
            · exact .inr ⟨⟨first, fresh⟩, leads⟩

theorem discover_nodup (visited : List String) (edges : List Edge) : (discover visited edges).Nodup := by
  induction edges generalizing visited with
  | nil => exact List.nodup_nil
  | cons e rest ih =>
      unfold discover
      split
      · exact ih visited
      · rw [List.nodup_cons]
        refine ⟨fun again => ?_, ih _⟩
        exact (mem_discover.mp again).1 List.mem_cons_self

theorem discover_length_le (visited : List String) (edges : List Edge) :
    (discover visited edges).length ≤ edges.length := by
  induction edges generalizing visited with
  | nil => exact Nat.le_refl _
  | cons e rest ih =>
      unfold discover
      split
      · exact Nat.le_succ_of_le (ih visited)
      · exact Nat.succ_le_succ (ih _)

/-- In what order ids were met is of no account for what is discovered. -/
theorem discover_congr {visited visited' : List String} (same : ∀ id, id ∈ visited ↔ id ∈ visited')
    (edges : List Edge) : discover visited edges = discover visited' edges := by
  induction edges generalizing visited visited' with
  | nil => rfl
  | cons e rest ih =>
      have met : visited.contains e.target = visited'.contains e.target := by
        rw [Bool.eq_iff_iff, List.contains_iff_mem, List.contains_iff_mem, same]
      unfold discover
      rw [met, ih same, @ih (e.target :: visited) (e.target :: visited')]
      intro id
      rw [List.mem_cons, List.mem_cons, same]

/-- Edges discover what the first of them do, and then what the others do besides. -/
theorem discover_append (visited : List String) (first others : List Edge) :
    discover visited (first ++ others) =
      discover visited first ++ discover (visited ++ discover visited first) others := by
  induction first generalizing visited with
  | nil => simp [discover]
  | cons e rest ih =>
      rw [List.cons_append, discover, discover]
      split
      · exact ih visited
      · rw [ih, List.cons_append]
        congr 2
        apply discover_congr
        intro id
        simp only [List.mem_cons, List.mem_append]
        tauto

/-- What some of the edges discover is not left for later. -/
theorem discover_length_add (visited : List String) {part all : List Edge} (subset : part ⊆ all) :
    (discover visited part).length + (discover (visited ++ discover visited part) all).length ≤
      (discover visited all).length := by
  rw [← List.length_append, ← discover_append]
  apply List.Subperm.length_le
  apply List.Nodup.subperm (discover_nodup _ _)
  intro id member
  rw [mem_discover] at member ⊢
  obtain ⟨fresh, e, leaves, leads⟩ := member
  rcases List.mem_append.mp leaves with now | later
  · exact ⟨fresh, e, subset now, leads⟩
  · exact ⟨fresh, e, later, leads⟩

/-! ## The search -/

/-- The search without a bound: while ids are queued, the first of them is found, and what its edges discover is
queued. -/
inductive Searches (g : Graph) : (visited queue found : List String) → Prop where
  | done {visited : List String} : Searches g visited [] []
  | round {visited queue found : List String} {id : String}
      (rest : Searches g (visited ++ discover visited (g.edgesFrom id)) (queue ++ discover visited (g.edgesFrom id))
        found) : Searches g visited (id :: queue) (id :: found)

/-- What is found are the ids in the queue, and then all that the edges from what is found discover. -/
theorem Searches.eq_append {g : Graph} {visited queue found : List String} (searches : g.Searches visited queue found) :
    found = queue ++ discover visited (found.flatMap g.edgesFrom) := by
  induction searches with
  | done => rfl
  | @round visited queue found id rest ih =>
      rw [List.flatMap_cons, discover_append, List.cons_append, ← List.append_assoc, ← ih]

section Search

variable {w : Workflow} {start : String}

/-- While the fuel lasts, the search goes on as without a bound. -/
theorem search_searches {fuel : Nat} {visited queue : List String}
    (lasts : queue.length + (discover visited w.edges).length ≤ fuel) :
    (ofWorkflow w).Searches visited queue ((ofWorkflow w).search fuel visited queue) := by
  induction fuel generalizing visited queue with
  | zero =>
      have empty : queue = [] := List.length_eq_zero_iff.mp (by omega)
      rw [empty]
      exact .done
  | succ fuel ih =>
      cases queue with
      | nil => exact .done
      | cons id queue =>
          have subset : (ofWorkflow w).edgesFrom id ⊆ w.edges := fun e leaves => (mem_edgesFrom.mp leaves).1
          have spent := discover_length_add visited subset
          apply Searches.round
          apply ih
          simp only [List.length_cons, List.length_append] at lasts ⊢
          omega

/-- The fuel of the search lasts until nothing is queued. -/
theorem reachable_searches (w : Workflow) (start : String) :
    (ofWorkflow w).Searches [start] [start] ((ofWorkflow w).reachable start) := by
  apply search_searches
  have bound := discover_length_le [start] w.edges
  simp only [List.length_singleton]
  change 1 + (discover [start] w.edges).length ≤ w.edges.length + 1
  omega

/-- The list of reachable ids begins with the start. -/
theorem reachable_head? (g : Graph) (start : String) : (g.reachable start).head? = some start := rfl

/-- No edge leads out of what can be reached. -/
theorem reachable_closed {e : Edge} (member : e ∈ w.edges)
    (reached : e.source ∈ (ofWorkflow w).reachable start) : e.target ∈ (ofWorkflow w).reachable start := by
  rw [(reachable_searches w start).eq_append, List.mem_append, mem_discover]
  by_cases first : e.target ∈ [start]
  · exact .inl first
  · exact .inr ⟨first, e, List.mem_flatMap.mpr ⟨e.source, reached, mem_edgesFrom.mpr ⟨member, rfl⟩⟩, rfl⟩

/-- From a node that can be reached, a run goes on to one that can be reached. -/
theorem reachable_next? {n next : Node} {result : Option Bool}
    (reached : n.id ∈ (ofWorkflow w).reachable start) (follows : (ofWorkflow w).next? n result = some next) :
    next ∈ w.nodes ∧ next.id ∈ (ofWorkflow w).reachable start := by
  obtain ⟨e, edge, found⟩ := Option.bind_eq_some_iff.mp follows
  obtain ⟨member, source⟩ := mem_edgesFrom.mp (mem_edgesFrom_of_edgeFrom? edge)
  obtain ⟨known, target⟩ := id_of_node? found
  rw [target]
  rw [← source] at reached
  exact ⟨known, reachable_closed member reached⟩

end Search

end Graph

end WorkflowEngine
