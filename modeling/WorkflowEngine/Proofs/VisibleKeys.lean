/-
Module: WorkflowEngine.Proofs.VisibleKeys
Layer: Proofs
Purpose: What the nodes of a walk can see.  The keys of a context follow from the nodes that were visited, and from
  nothing that they put out (`visibleKeys`); under the two keys that a run writes itself stand the payload and the
  result of the latest condition (`Trail.shows`).
Imports: Mathlib.Data.List.Induction, WorkflowEngine.Proofs.KeyOrder, WorkflowEngine.Proofs.LegalWalk
Trusted boundary: none
Main exports: insertKey, visibleKeys, mem_visibleKeys, latestVerdict?, Context.Shows, Trail.shows
-/
import Mathlib.Data.List.Induction
import WorkflowEngine.Proofs.KeyOrder
import WorkflowEngine.Proofs.LegalWalk

namespace WorkflowEngine

/-! ## Keys in order -/

/-- Adds a key in its place, unless it is there. -/
def insertKey (key : String) : List String → List String
  | [] => [key]
  | k :: rest => if key < k then key :: k :: rest else if key = k then key :: rest else k :: insertKey key rest

/-- The keys of an object do not depend on its values. -/
theorem Json.Object.keys_insert (members : Object) (key : String) (value : Json) :
    (members.insert key value).keys = insertKey key members.keys := by
  induction members with
  | nil => rfl
  | cons m rest ih =>
      obtain ⟨k, v⟩ := m
      have keys : Object.keys ((k, v) :: rest) = k :: Object.keys rest := rfl
      rw [insert, keys, insertKey]
      split
      · rfl
      · split
        · rfl
        · rw [← ih]
          rfl

theorem Json.Object.ordered_iff {members : Object} : members.Ordered ↔ members.keys.Pairwise (· < ·) :=
  List.pairwise_map.symm

theorem insertKey_increasing {key : String} {keys : List String} (increasing : keys.Pairwise (· < ·)) :
    (insertKey key keys).Pairwise (· < ·) := by
  have back : Json.Object.keys (keys.map fun k => (k, Json.null)) = keys := by
    simp [Json.Object.keys, Function.comp_def]
  rw [← back] at increasing ⊢
  rw [← Json.Object.keys_insert _ key .null, ← Json.Object.ordered_iff]
  exact (Json.Object.ordered_iff.2 increasing).insert

theorem mem_insertKey {key other : String} {keys : List String} :
    other ∈ insertKey key keys ↔ other = key ∨ other ∈ keys := by
  induction keys with
  | nil => simp [insertKey]
  | cons k rest ih =>
      rw [insertKey]
      split
      · exact List.mem_cons
      · split
        · rename_i same
          subst same
          simp
        · rw [List.mem_cons, List.mem_cons, ih]
          exact or_left_comm

/-! ## Keys of a run -/

/-- The keys that can be seen after a visit: the id of the node is among them, and so is the key of results if the
node is a condition. -/
def Node.addKeys (n : Node) (keys : List String) : List String :=
  if n.kind = .condition then insertKey conditionResultKey (insertKey n.id keys) else insertKey n.id keys

/-- The keys that can be seen after visits of some nodes. -/
def visibleKeys (visited : List Node) : List String := visited.foldl (fun keys n => n.addKeys keys) [payloadKey]

theorem Node.mem_addKeys {n : Node} {key : String} {keys : List String} :
    key ∈ n.addKeys keys ↔ key ∈ keys ∨ n.id = key ∨ key = conditionResultKey ∧ n.kind = .condition := by
  rw [addKeys]
  split
  · rename_i kind
    rw [mem_insertKey, mem_insertKey, eq_comm (a := key) (b := n.id)]
    simp only [kind, and_true]
    rw [or_comm (a := key = conditionResultKey), or_comm (a := n.id = key), or_assoc]
  · rename_i kind
    rw [mem_insertKey, eq_comm (a := key) (b := n.id)]
    simp only [kind, and_false, or_false]
    exact or_comm

theorem visibleKeys_snoc (visited : List Node) (n : Node) :
    visibleKeys (visited ++ [n]) = n.addKeys (visibleKeys visited) := by
  rw [visibleKeys, List.foldl_append]
  rfl

theorem visibleKeys_increasing (visited : List Node) : (visibleKeys visited).Pairwise (· < ·) := by
  induction visited using List.reverseRecOn with
  | nil => exact List.pairwise_singleton _ _
  | append_singleton visited n ih =>
      rw [visibleKeys_snoc, Node.addKeys]
      split
      · exact insertKey_increasing (insertKey_increasing ih)
      · exact insertKey_increasing ih

/-- The keys are those of the payload and of the nodes that were visited, and that of results if one of the nodes is a
condition. -/
theorem mem_visibleKeys {visited : List Node} {key : String} :
    key ∈ visibleKeys visited ↔
      key = payloadKey ∨ (∃ n ∈ visited, n.id = key) ∨
        key = conditionResultKey ∧ ∃ n ∈ visited, n.kind = .condition := by
  induction visited using List.reverseRecOn with
  | nil => simp [visibleKeys]
  | append_singleton visited n ih =>
      rw [visibleKeys_snoc, Node.mem_addKeys, ih]
      simp only [List.mem_append, List.mem_singleton, or_and_right, exists_or, exists_eq_left]
      grind

theorem conditionResultKey_mem_visibleKeys {visited : List Node} (free : ∀ n ∈ visited, n.id ∉ reservedKeys) :
    conditionResultKey ∈ visibleKeys visited ↔ ∃ n ∈ visited, n.kind = .condition := by
  have notPayload : conditionResultKey ≠ payloadKey := by decide
  have noId : ¬ ∃ n ∈ visited, n.id = conditionResultKey := by
    rintro ⟨n, member, same⟩
    apply free n member
    rw [same]
    decide
  simp [mem_visibleKeys, notPayload, noId]

/-! ## Results of conditions -/

/-- The result that a visit puts out, if it is one of a condition. -/
def Visit.verdict? (v : Visit) : Option Bool :=
  match v.result with
  | .ok output => output.conditionResult?
  | .error _ => none

/-- The latest result that some visits put out. -/
def latestVerdict? : List Visit → Option Bool
  | [] => none
  | v :: later => (latestVerdict? later).or v.verdict?

theorem latestVerdict?_snoc (visits : List Visit) (v : Visit) :
    latestVerdict? (visits ++ [v]) = v.verdict?.or (latestVerdict? visits) := by
  induction visits with
  | nil => simp [latestVerdict?]
  | cons first rest ih => rw [List.cons_append, latestVerdict?, ih, Option.or_assoc, latestVerdict?]

/-- The visits that put out a result are those of conditions. -/
theorem Executor.Possible.verdict {admits : Answers} {x : Executor} {e : Execution} {v : Visit}
    (possible : Executor.Possible admits x e v.node v.context v.result) :
    v.verdict?.isSome = true ↔ v.node.kind = .condition := by
  obtain ⟨node, context, result⟩ := v
  cases result with
  | error message => simpa [Visit.verdict?] using possible.not_failed.1
  | ok output =>
      have possible : Executor.Possible admits x e node context (.ok output) := possible
      cases possible.putsOut with
      | condition kind => simp [Visit.verdict?, NodeOutput.conditionResult?, kind]
      | trigger kind => simp [Visit.verdict?, NodeOutput.conditionResult?, kind]
      | other notCondition _ none => simp [Visit.verdict?, none, notCondition]

/-! ## Contexts of a walk -/

/-- What a context shows after some visits: keys that follow from the nodes, the payload, and the latest result of a
condition. -/
structure Context.Shows (payload : Json) (done : List Visit) (context : Context) : Prop where
  keys : context.keys = visibleKeys (done.map (·.node))
  payload : context.find? payloadKey = some payload
  verdict : context.find? conditionResultKey = (latestVerdict? done).map Json.bool

theorem Context.shows_new (payload : Json) : Context.Shows payload [] (.new payload) where
  keys := rfl
  payload := by simp [find?, new, Json.Object.find?]
  verdict := by
    have other : (conditionResultKey == payloadKey) = false := by decide
    simp [find?, new, Json.Object.find?, List.lookup_cons, other, latestVerdict?]

section Walks

variable {admits : Answers} {x : Executor} {e : Execution} {payload : Json} {done visits : List Visit}
  {context : Context} {node : Node} {output : NodeOutput}

/-- A visit adds to what is shown, and takes nothing away, as long as its node has no reserved id. -/
theorem Context.Shows.extend (shown : context.Shows payload done) (free : node.id ∉ reservedKeys)
    (possible : Executor.Possible admits x e node context (.ok output)) :
    (Executor.extend context node output).Shows payload (done ++ [⟨node, context, .ok output⟩]) := by
  have notPayload : payloadKey ≠ node.id := by
    intro same
    exact free (same ▸ List.mem_cons_self)
  have notResult : conditionResultKey ≠ node.id := by
    intro same
    exact free (same ▸ List.mem_cons_of_mem _ List.mem_cons_self)
  have reserved : payloadKey ≠ conditionResultKey := by decide
  have nodes : (done ++ [(⟨node, context, .ok output⟩ : Visit)]).map (·.node) = done.map (·.node) ++ [node] :=
    List.map_append
  have decided := Executor.Possible.verdict (v := ⟨node, context, .ok output⟩) possible
  have verdict : (⟨node, context, .ok output⟩ : Visit).verdict? = output.conditionResult? := rfl
  rw [verdict] at decided
  cases result : output.conditionResult? with
  | none =>
      have kind : node.kind ≠ .condition := by simpa [result] using decided
      have extended : Executor.extend context node output = ⟨context.entries.insert node.id output.toJson⟩ := by
        rw [Executor.extend, result]
        rfl
      rw [extended]
      refine ⟨?_, ?_, ?_⟩
      · rw [nodes, visibleKeys_snoc, Node.addKeys, if_neg kind, ← shown.keys]
        exact Json.Object.keys_insert ..
      · rw [find?, Json.Object.find?_insert, if_neg notPayload]
        exact shown.payload
      · rw [latestVerdict?_snoc, verdict, result, Option.none_or, find?, Json.Object.find?_insert, if_neg notResult]
        exact shown.verdict
  | some truth =>
      have kind : node.kind = .condition := by simpa [result] using decided
      have extended : Executor.extend context node output =
          ⟨(context.entries.insert node.id output.toJson).insert conditionResultKey (.bool truth)⟩ := by
        rw [Executor.extend, result]
        rfl
      rw [extended]
      refine ⟨?_, ?_, ?_⟩
      · rw [nodes, visibleKeys_snoc, Node.addKeys, if_pos kind, ← shown.keys, Context.keys, Json.Object.keys_insert,
          Json.Object.keys_insert]
        rfl
      · rw [find?, Json.Object.find?_insert, if_neg reserved, Json.Object.find?_insert, if_neg notPayload]
        exact shown.payload
      · rw [latestVerdict?_snoc, verdict, result, find?, Json.Object.find?_insert, if_pos rfl]
        rfl

/-- Every visit of a walk sees what the visits before it show. -/
theorem Trail.shows {g : Graph} {left : Nat} {start : Option Node}
    (trail : Trail g (Executor.Possible admits x e) left context start visits)
    (free : ∀ v ∈ visits, v.node.id ∉ reservedKeys) (shown : context.Shows payload done) :
    ∀ (k : Nat) (v : Visit), visits[k]? = some v → v.context.Shows payload (done ++ visits.take k) := by
  induction trail generalizing done with
  | astray | spent => simp
  | @failed left context node message visited | @arrived left context node output visited terminal =>
      intro k v at_k
      cases k with
      | zero =>
          cases at_k
          rwa [List.take_zero, List.append_nil]
      | succ k => simp at at_k
  | @onward left context node output visits visited inner rest ih =>
      intro k v at_k
      cases k with
      | zero =>
          cases at_k
          rwa [List.take_zero, List.append_nil]
      | succ k =>
          rw [List.forall_mem_cons] at free
          have later := ih free.2 (shown.extend free.1 visited) k v at_k
          rwa [List.append_assoc, List.singleton_append] at later

end Walks

end WorkflowEngine
