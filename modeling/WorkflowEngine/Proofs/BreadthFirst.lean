/-
Module: WorkflowEngine.Proofs.BreadthFirst
Layer: Proofs
Purpose: The order in which the nodes that can be reached are listed.  What the search finds is its start and then all
  that the edges of what it finds discover, so ids stand in the order of the places that they are discovered from, and
  of the edges that discover them (`Graph.reachable_explored`).  Such an order is one of distance, too: of two ids, that
  which stands first has a walk that is no longer (`Workflow.Explored.exists_walk_le`).  Together this is what a search
  in breadth promises (`Workflow.reachable_breadthFirst`).
Imports: Mathlib.Data.Nat.Find, WorkflowEngine.Proofs.Reachability
Trusted boundary: none
Main exports: Workflow.Walk, Workflow.Distance, Workflow.DiscoveredBefore, Workflow.Explored, Workflow.BreadthFirst,
  Graph.discover_pairwise, Graph.reachable_explored, Workflow.Explored.exists_walk_le, Workflow.reachable_breadthFirst
-/
import Mathlib.Data.Nat.Find
import WorkflowEngine.Proofs.Reachability

namespace WorkflowEngine

/-! ## Walks and discoveries -/

namespace Workflow

section Definitions

variable (w : Workflow)

/-- So many edges, each of which leaves where the one before it leads to, lead from the start to an id. -/
inductive Walk (start : String) : (length : Nat) → (id : String) → Prop where
  | stay : Walk start 0 start
  | along {length : Nat} {e : Edge} (before : Walk start length e.source) (member : e ∈ w.edges) :
      Walk start (length + 1) e.target

/-- The length of the shortest walks from the start to an id. -/
structure Distance (start id : String) (length : Nat) : Prop where
  walk : w.Walk start length id
  least : ∀ {other : Nat}, w.Walk start other id → length ≤ other

/-- Whether an edge leads from the one id to the other. -/
def joins (source target : String) : Bool := w.edges.any fun e => e.source = source ∧ e.target = target

/-- The place of the first listed id that an edge leads from to the given one. -/
def discoverer (listed : List String) (id : String) : Nat := listed.findIdx fun source => w.joins source id

/-- The position of the first edge that leads from there to the id. -/
def discoveringEdge (listed : List String) (id : String) : Nat :=
  w.edges.findIdx fun e => listed[w.discoverer listed id]? = some e.source ∧ e.target = id

/-- The one id is discovered from an earlier place than the other, or from the same place by an earlier edge. -/
def DiscoveredBefore (listed : List String) (a b : String) : Prop :=
  w.discoverer listed a < w.discoverer listed b ∨
    w.discoverer listed a = w.discoverer listed b ∧ w.discoveringEdge listed a < w.discoveringEdge listed b

/-- The list begins with the start and holds all that can be walked to, once.  Every id after the start is discovered
from one that stands before it, and they stand in the order in which they are discovered. -/
structure Explored (start : String) (listed : List String) : Prop where
  begins : listed.head? = some start
  distinct : listed.Nodup
  mem_iff : ∀ id, id ∈ listed ↔ ∃ length, w.Walk start length id
  discovered : ∀ id ∈ listed.tail, w.discoverer listed id < listed.idxOf id
  ordered : listed.tail.Pairwise (w.DiscoveredBefore listed)

/-- What a search in breadth finds.  It ends, with a list of ids of nodes that stand in the order in which they are
discovered, those at the same distance among them; and none of them stands before a nearer one. -/
structure BreadthFirst (start : String) (listed : List String) : Prop extends w.Explored start listed where
  ends : (Graph.ofWorkflow w).Searches [start] [start] listed
  known : ∀ id ∈ listed, ∃ n ∈ w.nodes, n.id = id
  nearest : ∃ distance : String → Nat, (∀ id ∈ listed, w.Distance start id (distance id)) ∧
    listed.Pairwise fun a b => distance a ≤ distance b

end Definitions

variable {w : Workflow} {start : String}

theorem joins_iff {source target : String} :
    w.joins source target = true ↔ ∃ e ∈ w.edges, e.source = source ∧ e.target = target := by
  simp [joins]

/-- An id is discovered by the first edge that leads to it from where it is discovered. -/
theorem discoveringEdge_eq {listed : List String} {source id : String}
    (here : listed[w.discoverer listed id]? = some source) :
    w.discoveringEdge listed id = w.edges.findIdx fun e => e.source = source ∧ e.target = id := by
  simp [discoveringEdge, here, eq_comm]

/-- Where there is a walk, there is a shortest one. -/
theorem Walk.exists_distance {id : String} {length : Nat} (walk : w.Walk start length id) :
    ∃ least, w.Distance start id least := by
  classical
  have some : ∃ length, w.Walk start length id := ⟨length, walk⟩
  exact ⟨Nat.find some, Nat.find_spec some, fun other => Nat.find_min' some other⟩

end Workflow

/-! ## First places -/

section Places

variable {α : Type} {p : α → Bool} {before after : List α} {x : α}

theorem findIdx_eq_length_before (none : ∀ y ∈ before, p y = false) (found : p x = true) :
    (before ++ x :: after).findIdx p = before.length := by
  rw [List.findIdx_append, List.findIdx_eq_length.mpr none, if_neg (Nat.lt_irrefl _), List.findIdx_cons, found]
  exact Nat.zero_add _

theorem length_before_lt_findIdx (none : ∀ y ∈ before, p y = false) (passed : p x = false) :
    before.length < (before ++ x :: after).findIdx p := by
  rw [List.findIdx_append, List.findIdx_eq_length.mpr none, if_neg (Nat.lt_irrefl _), List.findIdx_cons, passed]
  simp only [cond_false]
  omega

theorem findIdx_le_of_getElem? {l : List α} {i : Nat} (here : l[i]? = some x) (found : p x = true) :
    l.findIdx p ≤ i := by
  obtain ⟨inside, rfl⟩ := List.getElem?_eq_some_iff.mp here
  by_contra later
  rw [List.not_of_lt_findIdx (Nat.lt_of_not_le later)] at found
  cases found

end Places

/-! ## Distances -/

namespace Workflow

namespace Explored

variable {w : Workflow} {start : String} {listed : List String} (explored : w.Explored start listed)
include explored

/-- Of two ids after the start, that which stands first is discovered from no later a place. -/
theorem discoverer_le {i j : Nat} {a b : String} (order : i ≤ j) (at_i : listed[i + 1]? = some a)
    (at_j : listed[j + 1]? = some b) : w.discoverer listed a ≤ w.discoverer listed b := by
  rcases Nat.eq_or_lt_of_le order with rfl | earlier
  · cases at_i.symm.trans at_j
    exact Nat.le_refl _
  · rw [← List.getElem?_tail, List.getElem?_eq_some_iff] at at_i at_j
    obtain ⟨inside, rfl⟩ := at_i
    obtain ⟨inside', rfl⟩ := at_j
    rcases List.pairwise_iff_getElem.mp explored.ordered i j inside inside' earlier with place | ⟨same, -⟩
    · exact Nat.le_of_lt place
    · exact Nat.le_of_eq same

/-- An edge leads to every id after the start from the place that it is discovered from. -/
theorem exists_edge {i : Nat} {id : String} (here : listed[i + 1]? = some id) :
    ∃ e ∈ w.edges, listed[w.discoverer listed id]? = some e.source ∧ e.target = id := by
  rw [← List.getElem?_tail] at here
  have earlier := explored.discovered id (List.mem_of_getElem? here)
  have inside := Nat.lt_of_lt_of_le earlier List.idxOf_le_length
  obtain ⟨e, member, source, target⟩ := joins_iff.mp (List.findIdx_getElem (w := inside))
  have place : listed[w.discoverer listed id]? = some e.source :=
    (List.getElem?_eq_getElem inside).trans (congrArg some source.symm)
  exact ⟨e, member, place, target⟩

/-- Of two ids, that which stands first has a walk that is no longer. -/
theorem exists_walk_le {i j length : Nat} {a b : String} (walk : w.Walk start length b) (order : i ≤ j)
    (at_i : listed[i]? = some a) (at_j : listed[j]? = some b) : ∃ shorter ≤ length, w.Walk start shorter a := by
  have first : listed[0]? = some start := by rw [← List.head?_eq_getElem?, explored.begins]
  -- By induction on the walk to the id that stands last.
  induction walk generalizing i j a with
  | stay =>
      obtain ⟨inside, -⟩ := List.getElem?_eq_some_iff.mp first
      have begins : 0 = j := (List.getElem?_inj inside explored.distinct).mp (first.trans at_j.symm)
      obtain rfl : i = 0 := Nat.le_zero.mp (begins ▸ order)
      cases first.symm.trans at_i
      exact ⟨0, Nat.le_refl _, .stay⟩
  | @along length e before member ih =>
      match i, j, order with
      | 0, _, _ =>
          cases first.symm.trans at_i
          exact ⟨0, Nat.zero_le _, .stay⟩
      | i + 1, j + 1, order =>
          -- The walk comes from somewhere that stands no earlier than the place that the first id is discovered from.
          obtain ⟨o, known, place, rfl⟩ := explored.exists_edge at_i
          obtain ⟨k, at_k⟩ := List.getElem?_of_mem ((explored.mem_iff _).mpr ⟨length, before⟩)
          have later : w.discoverer listed e.target ≤ k :=
            findIdx_le_of_getElem? at_k (joins_iff.mpr ⟨e, member, rfl, rfl⟩)
          have sooner := explored.discoverer_le (Nat.le_of_succ_le_succ order) at_i at_j
          obtain ⟨shorter, bound, walk⟩ := ih (Nat.le_trans sooner later) place at_k
          exact ⟨shorter + 1, Nat.succ_le_succ bound, walk.along known⟩

/-- So ids stand in the order of their distances. -/
theorem nearest : ∃ distance : String → Nat, (∀ id ∈ listed, w.Distance start id (distance id)) ∧
    listed.Pairwise fun a b => distance a ≤ distance b := by
  have distances : ∀ id, ∃ length, id ∈ listed → w.Distance start id length := by
    intro id
    by_cases member : id ∈ listed
    · obtain ⟨length, walk⟩ := (explored.mem_iff id).mp member
      obtain ⟨least, distance⟩ := walk.exists_distance
      exact ⟨least, fun _ => distance⟩
    · exact ⟨0, fun listed => absurd listed member⟩
  choose distance least using distances
  refine ⟨distance, least, ?_⟩
  rw [List.pairwise_iff_getElem]
  intro i j inside inside' earlier
  have far := least listed[j] (List.getElem_mem inside')
  obtain ⟨shorter, bound, walk⟩ := explored.exists_walk_le far.walk (Nat.le_of_lt earlier)
    (List.getElem?_eq_getElem inside) (List.getElem?_eq_getElem inside')
  exact Nat.le_trans ((least listed[i] (List.getElem_mem inside)).least walk) bound

end Explored

end Workflow

/-! ## What the search finds -/

namespace Graph

/-- Of two ids that edges discover one after the other, the first edge that leads to either leads to the one. -/
theorem discover_pairwise (visited : List String) (edges : List Edge) :
    (discover visited edges).Pairwise fun a b =>
      ∃ e, edges.find? (fun e => e.target = a ∨ e.target = b) = some e ∧ e.target = a := by
  induction edges generalizing visited with
  | nil => exact .nil
  | cons e rest ih =>
      -- An edge to an id that was met is passed over.
      have skip {met : List String} (old : e.target ∈ met) :
          (discover met rest).Pairwise fun a b =>
            ∃ o, (e :: rest).find? (fun o => o.target = a ∨ o.target = b) = some o ∧ o.target = a := by
        apply (ih met).imp_of_mem
        rintro a b first second ⟨o, found, leads⟩
        have other : ∀ id ∈ discover met rest, e.target ≠ id := by
          rintro id member rfl
          exact (mem_discover.mp member).1 old
        refine ⟨o, ?_, leads⟩
        rw [List.find?_cons_of_neg, found]
        simp [other a first, other b second]
      unfold discover
      split
      · rename_i met
        exact skip (List.contains_iff_mem.mp met)
      · refine List.pairwise_cons.mpr ⟨?_, skip List.mem_cons_self⟩
        intro b later
        exact ⟨e, by simp, rfl⟩

/-- What is found was queued, or an edge leads to it from something found before. -/
theorem Searches.earlier {g : Graph} {visited queue found before after : List String} {id : String}
    (searches : g.Searches visited queue found) (split : found = before ++ id :: after) :
    id ∈ queue ∨ ∃ source ∈ before, ∃ e ∈ g.edgesFrom source, e.target = id := by
  induction searches generalizing before with
  | done => simp at split
  | @round visited queue found first rest ih =>
      cases before with
      | nil =>
          cases split
          exact .inl List.mem_cons_self
      | cons source before =>
          obtain ⟨rfl, rest⟩ := List.cons.inj split
          rcases ih rest with queued | ⟨source, member, e, leaves, leads⟩
          · rcases List.mem_append.mp queued with old | new
            · exact .inl (List.mem_cons_of_mem _ old)
            · obtain ⟨-, e, leaves, leads⟩ := mem_discover.mp new
              exact .inr ⟨first, List.mem_cons_self, e, leaves, leads⟩
          · exact .inr ⟨source, List.mem_cons_of_mem _ member, e, leaves, leads⟩

section Reachable

variable {w : Workflow} {start : String}

/-- The first of the edges of listed ids that leads to one of two ids leaves the first listed id that is joined to
either, and comes first of all edges from there to them. -/
theorem split_of_find? {listed : List String} {a b : String} {e : Edge}
    (found : (listed.flatMap (ofWorkflow w).edgesFrom).find? (fun e => e.target = a ∨ e.target = b) = some e) :
    ∃ before after earlier later, listed = before ++ e.source :: after ∧ w.edges = earlier ++ e :: later ∧
      (∀ source ∈ before, w.joins source a = false ∧ w.joins source b = false) ∧
      ∀ o ∈ earlier, o.source = e.source → o.target ≠ a ∧ o.target ≠ b := by
  rw [List.find?_flatMap] at found
  obtain ⟨before, source, after, rfl, here, nothing⟩ := List.findSome?_eq_some_iff.mp found
  rw [edgesFrom_ofWorkflow, List.find?_filter, List.find?_eq_some_iff_append] at here
  obtain ⟨leaves, earlier, later, edges, passed⟩ := here
  simp only [decide_eq_true_eq] at leaves
  simp only [Bool.not_eq_true', decide_eq_false_iff_not, decide_eq_true_eq, not_and, not_or] at passed
  obtain ⟨rfl, -⟩ := leaves
  refine ⟨before, after, earlier, later, rfl, edges, ?_, passed⟩
  intro source member
  have unjoined {id : String} (either : id = a ∨ id = b) : w.joins source id = false := by
    rw [Bool.eq_false_iff]
    intro joined
    obtain ⟨o, known, leaves, rfl⟩ := Workflow.joins_iff.mp joined
    have none := List.find?_eq_none.mp (nothing source member) o (mem_edgesFrom.mpr ⟨known, leaves⟩)
    exact none (decide_eq_true either)
  exact ⟨unjoined (.inl rfl), unjoined (.inr rfl)⟩

/-- The id to which the edges of listed ids lead first is discovered first. -/
theorem discoveredBefore_of_find? {listed : List String} {a b : String} {e : Edge} (differ : a ≠ b)
    (found : (listed.flatMap (ofWorkflow w).edgesFrom).find? (fun e => e.target = a ∨ e.target = b) = some e)
    (leads : e.target = a) : w.DiscoveredBefore listed a b := by
  obtain ⟨before, after, earlier, later, rfl, edges, unjoined, passed⟩ := split_of_find? found
  have here : (before ++ e.source :: after)[before.length]? = some e.source := by simp
  have placeA : w.discoverer (before ++ e.source :: after) a = before.length :=
    findIdx_eq_length_before (fun source member => (unjoined source member).1)
      (Workflow.joins_iff.mpr ⟨e, by simp [edges], rfl, leads⟩)
  cases joined : w.joins e.source b with
  | false =>
      left
      rw [placeA]
      exact length_before_lt_findIdx (fun source member => (unjoined source member).2) joined
  | true =>
      have placeB : w.discoverer (before ++ e.source :: after) b = before.length :=
        findIdx_eq_length_before (fun source member => (unjoined source member).2) joined
      right
      refine ⟨placeA.trans placeB.symm, ?_⟩
      rw [Workflow.discoveringEdge_eq (placeA ▸ here), Workflow.discoveringEdge_eq (placeB ▸ here), edges]
      have edgeA : (earlier ++ e :: later).findIdx (fun o => o.source = e.source ∧ o.target = a) = earlier.length :=
        findIdx_eq_length_before (fun o member => by simpa using fun leaves => (passed o member leaves).1)
          (by simp [leads])
      rw [edgeA]
      apply length_before_lt_findIdx
      · exact fun o member => by simpa using fun leaves => (passed o member leaves).2
      · simp [leads, differ]

/-- After the start, the list holds what the edges of the listed ids discover. -/
theorem reachable_eq (w : Workflow) (start : String) :
    (ofWorkflow w).reachable start =
      start :: discover [start] (((ofWorkflow w).reachable start).flatMap (ofWorkflow w).edgesFrom) :=
  (reachable_searches w start).eq_append

theorem reachable_nodup (w : Workflow) (start : String) : ((ofWorkflow w).reachable start).Nodup := by
  rw [reachable_eq, List.nodup_cons]
  refine ⟨?_, discover_nodup _ _⟩
  intro again
  exact (mem_discover.mp again).1 List.mem_cons_self

/-- After the start, ids are listed in the order in which they are discovered. -/
theorem reachable_ordered (w : Workflow) (start : String) :
    ((ofWorkflow w).reachable start).tail.Pairwise (w.DiscoveredBefore ((ofWorkflow w).reachable start)) := by
  have tail : ((ofWorkflow w).reachable start).tail =
      discover [start] (((ofWorkflow w).reachable start).flatMap (ofWorkflow w).edgesFrom) :=
    congrArg List.tail (reachable_eq w start)
  rw [tail]
  apply ((discover_pairwise _ _).and (discover_nodup _ _)).imp
  rintro a b ⟨⟨e, found, leads⟩, differ⟩
  exact discoveredBefore_of_find? differ found leads

/-- After the start, every id is discovered from one that is listed before it. -/
theorem reachable_discovered {id : String} (member : id ∈ ((ofWorkflow w).reachable start).tail) :
    w.discoverer ((ofWorkflow w).reachable start) id < ((ofWorkflow w).reachable start).idxOf id := by
  obtain ⟨before, after, split⟩ := List.append_of_mem member
  have whole : (ofWorkflow w).reachable start = (start :: before) ++ id :: after := by
    rw [reachable_eq] at split ⊢
    exact congrArg (start :: ·) split
  have distinct := reachable_nodup w start
  rw [whole] at distinct
  have fresh : id ∉ start :: before := fun old =>
    List.disjoint_of_nodup_append distinct old List.mem_cons_self
  have place : ((ofWorkflow w).reachable start).idxOf id = (start :: before).length := by
    rw [whole, List.idxOf_append_of_notMem fresh, List.idxOf_cons_self, Nat.add_zero]
  rw [place]
  rcases (reachable_searches w start).earlier whole with first | ⟨source, among, e, leaves, leads⟩
  · exact absurd (List.mem_singleton.mp first ▸ List.mem_cons_self) fresh
  · obtain ⟨known, leaves⟩ := mem_edgesFrom.mp leaves
    obtain ⟨i, inside, at_i⟩ := List.getElem_of_mem among
    have here : ((ofWorkflow w).reachable start)[i]? = some source := by
      rw [whole, List.getElem?_append_left inside, List.getElem?_eq_getElem inside, at_i]
    exact Nat.lt_of_le_of_lt (findIdx_le_of_getElem? here (Workflow.joins_iff.mpr ⟨e, known, leaves, leads⟩)) inside

/-- Everything that is listed can be walked to, by induction on its place. -/
theorem exists_walk {id : String} (reached : id ∈ (ofWorkflow w).reachable start) :
    ∃ length, w.Walk start length id := by
  obtain ⟨before, after, split⟩ := List.append_of_mem reached
  induction place : before.length using Nat.strong_induction_on generalizing before id after with
  | _ n ih =>
      rcases (reachable_searches w start).earlier split with first | ⟨source, among, e, leaves, rfl⟩
      · rw [List.mem_singleton.mp first]
        exact ⟨0, .stay⟩
      · obtain ⟨known, rfl⟩ := mem_edgesFrom.mp leaves
        obtain ⟨earlier, between, rfl⟩ := List.append_of_mem among
        have sooner : earlier.length < n := by
          rw [← place, List.length_append, List.length_cons]
          omega
        have there : (ofWorkflow w).reachable start = earlier ++ e.source :: (between ++ e.target :: after) := by
          simpa using split
        obtain ⟨length, walk⟩ := ih earlier.length sooner (by simp [there]) earlier _ there rfl
        exact ⟨length + 1, walk.along known⟩

/-- Everything that can be walked to is listed. -/
theorem mem_reachable_of_walk {id : String} {length : Nat} (walk : w.Walk start length id) :
    id ∈ (ofWorkflow w).reachable start := by
  induction walk with
  | stay => exact List.mem_of_head? (reachable_head? _ _)
  | along before member ih => exact reachable_closed member ih

/-- The list of reachable ids is the result of an exploration. -/
theorem reachable_explored (w : Workflow) (start : String) : w.Explored start ((ofWorkflow w).reachable start) where
  begins := reachable_head? _ _
  distinct := reachable_nodup w start
  mem_iff _ := ⟨exists_walk, fun ⟨_, walk⟩ => mem_reachable_of_walk walk⟩
  discovered _ member := reachable_discovered member
  ordered := reachable_ordered w start

end Reachable

end Graph

namespace Workflow

/-- In a valid workflow, walks from a node lead to nodes. -/
theorem Valid.known {w : Workflow} (valid : w.Valid) {n : Node} (member : n ∈ w.nodes) {length : Nat} {id : String}
    (walk : w.Walk n.id length id) : ∃ n ∈ w.nodes, n.id = id := by
  cases walk with
  | stay => exact ⟨n, member, rfl⟩
  | along before edge => exact List.mem_map.mp (valid.joined _ edge).2

/-- The ids that validation lists are those that a search in breadth finds from the trigger. -/
theorem reachable_breadthFirst {w : Workflow} {listed : List String} (accepted : w.validate = .ok listed) :
    ∃ trigger, w.nodes.filter (fun n => n.kind = .trigger) = [trigger] ∧ w.BreadthFirst trigger.id listed := by
  obtain ⟨valid, trigger, one, rfl⟩ := of_validate accepted
  have member : trigger ∈ w.nodes := by
    have only : trigger ∈ w.nodes.filter fun n => n.kind = .trigger := by simp [one]
    exact (List.mem_filter.mp only).1
  have explored := Graph.reachable_explored w trigger.id
  refine ⟨trigger, one, ⟨explored, Graph.reachable_searches w trigger.id, ?_, explored.nearest⟩⟩
  intro id found
  obtain ⟨length, walk⟩ := (explored.mem_iff id).mp found
  exact valid.known member walk

/-- A workflow with parallel edges, a self loop and a way back to the trigger, and a node that nothing leads to. -/
def looping : Workflow where
  id := .nil
  name := "looping"
  nodes := [⟨"left", .delay, none, []⟩, ⟨"right", .delay, none, []⟩, ⟨"both", .delay, none, []⟩,
    ⟨"idle", .delay, none, []⟩, ⟨"start", .trigger, none, []⟩]
  edges := [⟨"e0", "start", "right", none⟩, ⟨"e1", "start", "left", none⟩, ⟨"e2", "start", "right", none⟩,
    ⟨"e3", "left", "both", none⟩, ⟨"e4", "right", "right", none⟩, ⟨"e5", "right", "both", none⟩,
    ⟨"e6", "both", "start", none⟩, ⟨"e7", "idle", "left", none⟩]

theorem looping_valid : looping.validate = .ok ["start", "right", "left", "both"] := by
  have nodes : checkNodeIds [] looping.nodes = .ok () := by decide
  have edges : checkEdges (looping.nodes.map (·.id)) [] looping.edges = .ok () := by decide
  have trigger : (Graph.ofWorkflow looping).trigger = .ok ⟨"start", .trigger, none, []⟩ := rfl
  have conditions : checkConditions looping.nodes = .ok () := by decide
  have reached : (Graph.ofWorkflow looping).reachable "start" = ["start", "right", "left", "both"] := by
    have edges : (Graph.ofWorkflow looping).workflow.edges.length = 8 := rfl
    rw [Graph.reachable, edges]
    simp [Graph.search, Graph.edgesFrom_ofWorkflow, Graph.discover, looping]
  simp only [validate, nodes, edges, trigger, conditions, bind, Except.bind, reached]

theorem reachable_breadthFirst_looping : looping.BreadthFirst "start" ["start", "right", "left", "both"] := by
  obtain ⟨trigger, one, found⟩ := reachable_breadthFirst looping_valid
  have start : looping.nodes.filter (fun n => n.kind = .trigger) = [⟨"start", .trigger, none, []⟩] := by decide
  cases start.symm.trans one
  exact found

end Workflow

end WorkflowEngine
