/-
Module: WorkflowEngine.Proofs.GraphIndex
Layer: Proofs
Purpose: What the index of a graph finds.  Both of its tables are filled from lists in which ids may be repeated and
  edges may lead nowhere, and each answers as a scan of the list from the front would; so the next node is the one
  that such scans choose (`Graph.index_scans`).
Imports: WorkflowEngine.Workflow.Graph
Trusted boundary: none
Main exports: Graph.node?_ofWorkflow, Graph.edgesFrom_ofWorkflow, Graph.handled?_ofWorkflow, Workflow.scanNext?,
  Graph.next?_ofWorkflow, Graph.index_scans
-/
import WorkflowEngine.Workflow.Graph

namespace WorkflowEngine

/-! ## Scanning -/

namespace Workflow

variable (w : Workflow)

/-- The first node with an id. -/
def scanNode? (id : String) : Option Node := w.nodes.find? fun n => n.id = id

/-- The edges that leave the node with an id, in authored order. -/
def scanEdges (id : String) : List Edge := w.edges.filter fun e => e.source = id

/-- The first edge that leaves the node with an id and has a handle. -/
def scanHandle? (id handle : String) : Option Edge :=
  w.edges.find? fun e => e.source = id ∧ e.handle = some handle

/-- The edge that a scan of all edges chooses.  From a condition it is the first whose handle says whether the result
is true, or else the first with the handle `default`; from any other node it is the first. -/
def scanEdge? (n : Node) (result : Option Bool) : Option Edge :=
  if n.kind = .condition then
    match w.scanHandle? n.id (if result = some true then "true" else "false") with
    | some e => some e
    | none => w.scanHandle? n.id "default"
  else w.edges.find? fun e => e.source = n.id

/-- The first node with the target of that edge for its id.  If there is none, no other edge is tried. -/
def scanNext? (n : Node) (result : Option Bool) : Option Node :=
  match w.scanEdge? n result with
  | some e => w.scanNode? e.target
  | none => none

end Workflow

namespace Graph

/-! ## The tables -/

theorem foldl_insertIfNew_find? (nodes : List Node) (index : Std.HashMap String Node) (id : String) :
    (nodes.foldl (fun index n => index.insertIfNew n.id n) index)[id]? =
      (index[id]?).or (nodes.find? fun n => n.id = id) := by
  induction nodes generalizing index with
  | nil => simp
  | cons n rest ih =>
      rw [List.foldl_cons, ih, Std.HashMap.getElem?_insertIfNew, List.find?_cons]
      by_cases same : n.id = id
      · subst same
        cases found : index[n.id]? with
        | none =>
            have absent : n.id ∉ index := by
              rw [Std.HashMap.mem_iff_isSome_getElem?, found]
              simp
            simp [absent]
        | some other =>
            have member : n.id ∈ index := by
              rw [Std.HashMap.mem_iff_isSome_getElem?, found]
              rfl
            simp [member]
      · simp [same]

/-- Of the nodes with an id, the index finds the first. -/
theorem node?_ofWorkflow (w : Workflow) (id : String) :
    (ofWorkflow w).node? id = w.nodes.find? fun n => n.id = id := by
  rw [node?, ofWorkflow, indexNodes, foldl_insertIfNew_find?]
  simp

/-- The index finds the edges that leave a node in authored order. -/
theorem edgesFrom_ofWorkflow (w : Workflow) (id : String) :
    (ofWorkflow w).edgesFrom id = w.edges.filter fun e => e.source = id := by
  change (indexEdges w.edges).getD id [] = _
  induction w.edges with
  | nil => simp [indexEdges]
  | cons e rest ih =>
      change ((indexEdges rest).insert e.source (e :: (indexEdges rest).getD e.source [])).getD id [] = _
      rw [Std.HashMap.getD_insert, List.filter_cons]
      by_cases same : e.source = id
      · subst same
        simp [ih]
      · simp [same, ih]

theorem id_of_node? {w : Workflow} {id : String} {n : Node} (found : (ofWorkflow w).node? id = some n) :
    n ∈ w.nodes ∧ n.id = id := by
  rw [node?_ofWorkflow] at found
  exact ⟨List.mem_of_find?_eq_some found, by simpa using List.find?_some found⟩

theorem mem_edgesFrom {w : Workflow} {id : String} {e : Edge} :
    e ∈ (ofWorkflow w).edgesFrom id ↔ e ∈ w.edges ∧ e.source = id := by
  simp [edgesFrom_ofWorkflow]

/-! ## The edge to follow -/

/-- The index finds the first edge with a handle. -/
theorem handled?_ofWorkflow (w : Workflow) (id handle : String) :
    (ofWorkflow w).handled? id handle = w.edges.find? fun e => e.source = id ∧ e.handle = some handle := by
  rw [handled?, edgesFrom_ofWorkflow, List.find?_filter]
  congr 1
  funext e
  simp

/-- The index finds the first edge that leaves a node. -/
theorem head?_edgesFrom (w : Workflow) (id : String) :
    ((ofWorkflow w).edgesFrom id).head? = w.edges.find? fun e => e.source = id := by
  rw [edgesFrom_ofWorkflow, List.head?_filter]

/-- The edge that is followed leaves the node. -/
theorem mem_edgesFrom_of_edgeFrom? {g : Graph} {n : Node} {result : Option Bool} {e : Edge}
    (follows : g.edgeFrom? n result = some e) : e ∈ g.edgesFrom n.id := by
  unfold edgeFrom? at follows
  split at follows
  · rcases Option.or_eq_some_iff.mp follows with named | ⟨-, default⟩
    · exact List.mem_of_find?_eq_some named
    · exact List.mem_of_find?_eq_some default
  · exact List.mem_of_head? follows

/-- The edge that is followed is the one that a scan chooses. -/
theorem edgeFrom?_ofWorkflow (w : Workflow) (n : Node) (result : Option Bool) :
    (ofWorkflow w).edgeFrom? n result = w.scanEdge? n result := by
  have wanted : (if result.getD false then "true" else "false") = if result = some true then "true" else "false" := by
    cases result with
    | none => rfl
    | some value => cases value <;> rfl
  unfold edgeFrom? Workflow.scanEdge?
  by_cases branch : n.kind = .condition
  · rw [if_pos branch, if_pos branch, wanted, handled?_ofWorkflow, handled?_ofWorkflow]
    change Option.or (w.scanHandle? _ _) (w.scanHandle? _ _) = _
    cases w.scanHandle? n.id (if result = some true then "true" else "false") <;> rfl
  · rw [if_neg branch, if_neg branch, head?_edgesFrom]

/-- The next node is the one that scans find. -/
theorem next?_ofWorkflow (w : Workflow) (n : Node) (result : Option Bool) :
    (ofWorkflow w).next? n result = w.scanNext? n result := by
  rw [next?, edgeFrom?_ofWorkflow, Workflow.scanNext?]
  cases w.scanEdge? n result with
  | none => rfl
  | some e => exact node?_ofWorkflow w e.target

/-- Whatever the lists of a workflow hold, its index answers as scans of them do: it finds the first node with an id,
and the edges that leave a node in authored order, and the node after a node is the one that scans choose. -/
theorem index_scans (w : Workflow) :
    (∀ id, (ofWorkflow w).node? id = w.scanNode? id) ∧
      (∀ id, (ofWorkflow w).edgesFrom id = w.scanEdges id) ∧
      ∀ n result, (ofWorkflow w).next? n result = w.scanNext? n result :=
  ⟨node?_ofWorkflow w, edgesFrom_ofWorkflow w, next?_ofWorkflow w⟩

end Graph

end WorkflowEngine
