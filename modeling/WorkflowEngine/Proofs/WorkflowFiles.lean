/-
Module: WorkflowEngine.Proofs.WorkflowFiles
Layer: Proofs
Purpose: Workflows that are written as JSON are read back as they were.  The fields of a record fill slots of their own,
  so a record is read alike in whatever order its members stand (`Json.Record.takeMembers_insert`), and it is enough to
  know what each member puts into the draft (`Json.Record.Fills`).  A field that is left out and one that is filled with
  what it stands for amount to the same; but settings that begin with the key of embedded text stand for others
  (`Definition.decoded_as_written`).
Imports: Mathlib.Data.List.Pairwise, WorkflowEngine.Proofs.EmbeddedJson, WorkflowEngine.Proofs.KeyOrder,
  WorkflowEngine.Proofs.UuidSpellings, WorkflowEngine.Workflow.Definition, WorkflowEngine.Workflow.Validation
Trusted boundary: none
Main exports: Json.Field.Apart, Json.Record.Independent, Json.Record.takeMembers_insert, Json.Record.Fills,
  Json.Record.ofValue_ofMembers, NodeDefinition.ofValue_toJson_iff, EdgeDefinition.ofValue_toJson,
  Definition.ofValue_toJson_iff, Definition.decoded_as_written, Definition.embedded_settings_replaced
-/
import Mathlib.Data.List.Pairwise
import WorkflowEngine.Proofs.EmbeddedJson
import WorkflowEngine.Proofs.KeyOrder
import WorkflowEngine.Proofs.UuidSpellings
import WorkflowEngine.Workflow.Definition
import WorkflowEngine.Workflow.Validation

namespace WorkflowEngine

namespace Json

theorem Object.ofList_snoc (members : List (String × Json)) (key : String) (value : Json) :
    Object.ofList (members ++ [(key, value)]) = (Object.ofList members).insert key value := by
  rw [Object.ofList, List.foldl_append]
  rfl

/-! ## Fields -/

/-- Two fields fill slots of their own: it makes no difference which of them is taken into a draft first. -/
def Field.Apart {σ : Type} (field other : Field σ) : Prop :=
  ∀ {value value' : Json} {put put' : σ → σ}, field.decoder.ofValue value = .ok put →
    other.decoder.ofValue value' = .ok put' → ∀ draft, put (put' draft) = put' (put draft)

instance {σ : Type} : Std.Symm (@Field.Apart σ) where
  symm := by
    intro field other apart value value' put put' decoded decoded' draft
    exact (apart decoded' decoded draft).symm

/-- What a decoder gives after a transformation was transformed. -/
theorem Decoder.of_map {α β : Type} {d : Decoder α} {f : α → β} {value : Json} {b : β}
    (decoded : (d.map f).ofValue value = .ok b) : ∃ a, d.ofValue value = .ok a ∧ f a = b := by
  change (d.ofValue value).map f = .ok b at decoded
  cases own : d.ofValue value with
  | error fault =>
      rw [own] at decoded
      cases decoded
  | ok a =>
      rw [own] at decoded
      cases decoded
      exact ⟨a, rfl, rfl⟩

/-- Fields are apart if whatever may be put into their slots can be put there in either order. -/
theorem Field.apart_map {σ α β : Type} {key key' : String} {present present' : σ → Bool} {d : Decoder α}
    {d' : Decoder β} {f : α → σ → σ} {g : β → σ → σ} (slots : ∀ a b draft, f a (g b draft) = g b (f a draft)) :
    Field.Apart ⟨key, present, d.map f⟩ ⟨key', present', d'.map g⟩ := by
  intro value value' put put' decoded decoded' draft
  obtain ⟨a, -, rfl⟩ := Decoder.of_map decoded
  obtain ⟨b, -, rfl⟩ := Decoder.of_map decoded'
  exact slots a b draft

namespace Record

/-! ## Members in any order -/

variable {σ α : Type} {r : Record σ α} {key : String} {value : Json} {put fill : σ → σ}
  {members : List (String × Json)}

/-- All fields of the record are apart. -/
def Independent (r : Record σ α) : Prop := r.fields.Pairwise Field.Apart

/-- A member is one of the record's fields, and decodes to what it puts into the draft. -/
def Takes (r : Record σ α) (key : String) (value : Json) (put : σ → σ) : Prop :=
  ∃ field, r.fields.find? (·.key == key) = some field ∧ field.decoder.ofValue value = .ok put

/-- A field takes what its decoder makes of the value. -/
theorem takes_map {β : Type} {present : σ → Bool} {d : Decoder β} {f : β → σ → σ} {b : β}
    (known : r.fields.find? (·.key == key) = some ⟨key, present, d.map f⟩) (decoded : d.ofValue value = .ok b)
    (puts : f b = put) : r.Takes key value put := by
  refine ⟨_, known, ?_⟩
  change (d.ofValue value).map f = .ok put
  rw [decoded, ← puts]
  rfl

/-- Members under two keys are taken in either order. -/
theorem Independent.commute (independent : r.Independent) {key' : String} {value' : Json} {put' : σ → σ}
    (differs : key ≠ key') (takes : r.Takes key value put) (takes' : r.Takes key' value' put') (draft : σ) :
    put (put' draft) = put' (put draft) := by
  obtain ⟨field, known, decoded⟩ := takes
  obtain ⟨other, known', decoded'⟩ := takes'
  have named : field.key = key := by simpa using List.find?_some known
  have named' : other.key = key' := by simpa using List.find?_some known'
  have two : field ≠ other := by
    rintro rfl
    exact differs (named.symm.trans named')
  have apart : field.Apart other :=
    List.Pairwise.forall independent (List.mem_of_find?_eq_some known) (List.mem_of_find?_eq_some known') two
  exact apart decoded decoded' draft

theorem takeMembers_cons (takes : r.Takes key value put) (draft : σ) (rest : Object) :
    r.takeMembers draft ((key, value) :: rest) = r.takeMembers (put draft) rest := by
  obtain ⟨field, known, decoded⟩ := takes
  simp only [takeMembers, known, decoded]
  rfl

/-- A member that is inserted among others might as well come first. -/
theorem takeMembers_insert (independent : r.Independent) (takes : r.Takes key value put) {members : Object}
    (new : key ∉ members.map Prod.fst) (draft : σ) :
    r.takeMembers draft (members.insert key value) = r.takeMembers (put draft) members := by
  induction members generalizing draft with
  | nil => exact takeMembers_cons takes draft []
  | cons member rest ih =>
      obtain ⟨other, otherValue⟩ := member
      rw [List.map_cons, List.mem_cons, not_or] at new
      obtain ⟨differs, new⟩ := new
      unfold Object.insert
      split
      · exact takeMembers_cons takes draft _
      · unfold takeMembers
        split
        · exact ih new draft
        · rename_i field known
          cases decoded : field.decoder.ofValue otherValue with
          | error fault => rfl
          | ok put' =>
              change r.takeMembers (put' draft) (Object.insert rest key value) =
                r.takeMembers (put' (put draft)) rest
              rw [ih new, independent.commute differs takes ⟨field, known, decoded⟩]

/-- Members with keys of their own, and what they put into a draft together. -/
inductive Fills (r : Record σ α) : List (String × Json) → (σ → σ) → Prop where
  | nil : Fills r [] id
  | snoc {members : List (String × Json)} {key : String} {value : Json} {fill put : σ → σ}
      (front : Fills r members fill) (new : key ∉ members.map Prod.fst) (takes : r.Takes key value put) :
      Fills r (members ++ [(key, value)]) (fill ∘ put)

namespace Fills

theorem mem_keys (fills : r.Fills members fill) {other : String}
    (member : other ∈ (Object.ofList members).map Prod.fst) : other ∈ members.map Prod.fst := by
  induction fills with
  | nil => exact member
  | snoc front new takes ih =>
      rw [Object.ofList_snoc, List.mem_map] at member
      obtain ⟨m, inserted, rfl⟩ := member
      rw [List.map_append, List.mem_append]
      rcases Object.mem_of_mem_insert inserted with rfl | old
      · exact .inr (List.mem_singleton_self _)
      · exact .inl (ih (List.mem_map_of_mem old))

/-- An optional member puts something into the draft if it is there. -/
theorem optional (front : r.Fills members fill) (new : key ∉ members.map Prod.fst) {put : String → σ → σ}
    (takes : ∀ s, r.Takes key (.text s) (put s)) (value : Option String) :
    r.Fills (members ++ optionalMember key value) (fill ∘ value.elim id put) := by
  cases value with
  | none => simpa [optionalMember] using front
  | some s => exact .snoc front new (takes s)

end Fills

/-- Whatever order members are written in, a draft is filled with all that they hold. -/
theorem takeMembers_ofList (independent : r.Independent) (fills : r.Fills members fill) (draft : σ) :
    r.takeMembers draft (Object.ofList members) = .ok (fill draft) := by
  induction fills generalizing draft with
  | nil => rfl
  | @snoc members key value fill put front new takes ih =>
      have unused : key ∉ (Object.ofList members).map Prod.fst := fun member => new (front.mem_keys member)
      rw [Object.ofList_snoc, takeMembers_insert independent takes unused, ih]
      rfl

theorem ofValue_ofMembers (independent : r.Independent) (fills : r.Fills members fill) :
    r.decoder.ofValue (ofMembers members) = r.complete .missingField (fill r.empty) := by
  change r.takeMembers r.empty (Object.ofList members) >>= r.complete .missingField = _
  rw [takeMembers_ofList independent fills]
  rfl

/-- Where members are taken, the value of each field decodes. -/
theorem decodes_of_takeMembers {field : Field σ} (known : r.fields.find? (·.key == key) = some field)
    {members : Object} (member : (key, value) ∈ members) {before after : σ}
    (taken : r.takeMembers before members = .ok after) : ∃ put, field.decoder.ofValue value = .ok put := by
  induction members generalizing before with
  | nil => cases member
  | cons m rest ih =>
      obtain ⟨other, otherValue⟩ := m
      rw [takeMembers] at taken
      rcases List.mem_cons.1 member with same | later
      · cases same
        simp only [known] at taken
        obtain ⟨put, decoded, -⟩ := Except.of_bind taken
        exact ⟨put, decoded⟩
      · split at taken
        · exact ih later taken
        · obtain ⟨put, -, taken⟩ := Except.of_bind taken
          exact ih later taken

theorem decodes_of_ofValue {β : Type} {present : σ → Bool} {d : Decoder β} {f : β → σ → σ}
    (known : r.fields.find? (·.key == key) = some ⟨key, present, d.map f⟩)
    (member : (key, value) ∈ Object.ofList members) {a : α} (decoded : r.decoder.ofValue (ofMembers members) = .ok a) :
    ∃ b, d.ofValue value = .ok b := by
  obtain ⟨draft, taken, -⟩ := Except.of_bind
    (show r.takeMembers r.empty (Object.ofList members) >>= r.complete .missingField = .ok a from decoded)
  obtain ⟨put, decoded⟩ := decodes_of_takeMembers known member taken
  obtain ⟨b, decoded, -⟩ := Decoder.of_map decoded
  exact ⟨b, decoded⟩

end Record

/-- A list decodes if each of its items does. -/
theorem Decoder.list_ofValue_iff {α β : Type} {d : Decoder β} {encode : α → Json} {items : List α} {read : List β} :
    d.list.ofValue (.list (items.map encode)) = .ok read ↔
      List.Forall₂ (fun a b => d.ofValue (encode a) = .ok b) items read := by
  change (items.map encode).mapM d.ofValue = .ok read ↔ _
  induction items generalizing read with
  | nil =>
      rw [List.forall₂_nil_left_iff]
      exact ⟨fun same => (Except.ok.inj same).symm, fun same => by rw [same]; rfl⟩
  | cons a items ih =>
      rw [List.map_cons, List.mapM_cons]
      constructor
      · intro decoded
        obtain ⟨b, first, decoded⟩ := Except.of_bind decoded
        obtain ⟨rest, others, same⟩ := Except.of_bind decoded
        cases same
        exact .cons first (ih.1 others)
      · rintro (_ | ⟨first, others⟩)
        rw [first, ih.2 others]
        rfl

theorem Decoder.uuid_ofValue (s : String) :
    Decoder.uuid.ofValue (.text s) = (Uuid.readAny s.toList).mapError ShapeFault.invalidUuid :=
  rfl

end Json

open Json

/-- An optional member has no key but its own. -/
theorem not_mem_optionalMember {key other : String} (differs : other ≠ key) (value : Option String) :
    other ∉ (optionalMember key value).map Prod.fst := by
  cases value with
  | none => exact List.not_mem_nil
  | some s => exact fun member => differs (List.mem_singleton.mp member)

/-! ## Nodes -/

namespace NodeDefinition

theorem record_independent : record.Independent := by
  simp only [Record.Independent, record, List.pairwise_cons, List.forall_mem_cons, List.not_mem_nil, false_imp_iff,
    implies_true, List.Pairwise.nil, and_true]
  refine ⟨⟨?_, ?_, ?_, ?_⟩, ⟨?_, ?_, ?_⟩, ⟨?_, ?_⟩, ?_⟩
  all_goals
    apply Field.apart_map
    intro _ _ draft
    rfl

/-- The draft of a node whose members have all been taken. -/
def draft (n : NodeDefinition) : NodeDraft :=
  ⟨some n.id, some n.type, n.actionType.map some, n.label.map some, some n.config⟩

theorem complete_draft (missing : String → ShapeFault) (n : NodeDefinition) :
    record.complete missing n.draft = .ok n := by
  obtain ⟨id, type, actionType, label, config⟩ := n
  cases actionType <;> cases label <;> rfl

theorem known_config : record.fields.find? (·.key == "config") =
    some ⟨"config", (·.config.isSome), Decoder.any.map fun v d => { d with config := some v }⟩ :=
  rfl

/-- The members that a node is written with fill its draft, with the settings that its settings stand for. -/
theorem fills_draft (n : NodeDefinition) {config : Json} (taken : Decoder.any.ofValue n.config = .ok config) :
    ∃ fill, fill record.empty = draft { n with config } ∧ record.Fills
      ([("id", .text n.id), ("type", .text n.type), ("config", n.config)]
        ++ optionalMember "action_type" n.actionType ++ optionalMember "label" n.label) fill := by
  have putAction (s : String) : record.Takes "action_type" (.text s) fun d => { d with actionType := some (some s) } :=
    ⟨_, rfl, rfl⟩
  have putLabel (s : String) : record.Takes "label" (.text s) fun d => { d with label := some (some s) } :=
    ⟨_, rfl, rfl⟩
  have named : record.Fills [("id", .text n.id)] _ := .snoc .nil List.not_mem_nil ⟨_, rfl, rfl⟩
  have typed : record.Fills [("id", .text n.id), ("type", .text n.type)] _ := .snoc named (by simp) ⟨_, rfl, rfl⟩
  have set : record.Fills [("id", .text n.id), ("type", .text n.type), ("config", n.config)] _ :=
    .snoc typed (by simp) (Record.takes_map known_config taken rfl)
  have action := set.optional (by simp) putAction n.actionType
  refine ⟨_, ?_, action.optional ?_ putLabel n.label⟩
  · obtain ⟨id, type, actionType, label, _⟩ := n
    cases actionType <;> cases label <;> rfl
  · rw [List.map_append, List.mem_append, not_or]
    exact ⟨by simp, not_mem_optionalMember (by decide) _⟩

/-- A node is read back with what its settings stand for, if they stand for anything. -/
theorem ofValue_toJson_iff (n m : NodeDefinition) :
    record.decoder.ofValue n.toJson = .ok m ↔
      ∃ config, Decoder.any.ofValue n.config = .ok config ∧ m = { n with config } := by
  have back {config : Json} (taken : Decoder.any.ofValue n.config = .ok config) :
      record.decoder.ofValue n.toJson = .ok { n with config } := by
    obtain ⟨fill, filled, fills⟩ := n.fills_draft taken
    rw [toJson, Record.ofValue_ofMembers record_independent fills, filled, complete_draft]
  constructor
  · intro decoded
    have member : ("config", n.config) ∈ Object.ofList ([("id", .text n.id), ("type", .text n.type),
        ("config", n.config)] ++ optionalMember "action_type" n.actionType ++ optionalMember "label" n.label) := by
      rw [(Object.ofList_ordered _).mem_iff_find?]
      cases n.actionType <;> cases n.label <;> simp [Object.ofList, optionalMember, Object.find?_insert]
    obtain ⟨config, taken⟩ := Record.decodes_of_ofValue known_config member decoded
    exact ⟨config, taken, Except.ok.inj (decoded.symm.trans (back taken))⟩
  · rintro ⟨config, taken, rfl⟩
    exact back taken

/-- A node is read back as it was if its settings hold no embedded text. -/
theorem ofValue_toJson_self_iff (n : NodeDefinition) :
    record.decoder.ofValue n.toJson = .ok n ↔ n.config.Unembedded := by
  rw [ofValue_toJson_iff, ← takeAny_eq_self_iff]
  constructor
  · rintro ⟨config, taken, same⟩
    have kept : n.config = config := congrArg NodeDefinition.config same
    rwa [← kept] at taken
  · exact fun taken => ⟨n.config, taken, rfl⟩

end NodeDefinition

/-! ## Edges -/

namespace EdgeDefinition

theorem record_independent : record.Independent := by
  simp only [Record.Independent, record, List.pairwise_cons, List.forall_mem_cons, List.not_mem_nil, false_imp_iff,
    implies_true, List.Pairwise.nil, and_true]
  refine ⟨⟨?_, ?_, ?_⟩, ⟨?_, ?_⟩, ?_⟩
  all_goals
    apply Field.apart_map
    intro _ _ draft
    rfl

/-- The draft of an edge whose members have all been taken. -/
def draft (e : EdgeDefinition) : EdgeDraft := ⟨e.id.map some, some e.source, some e.target, e.handle.map some⟩

theorem complete_draft (missing : String → ShapeFault) (e : EdgeDefinition) :
    record.complete missing e.draft = .ok e := by
  obtain ⟨id, source, target, handle⟩ := e
  cases id <;> cases handle <;> rfl

/-- The members that an edge is written with fill its draft. -/
theorem fills_draft (e : EdgeDefinition) :
    ∃ fill, fill record.empty = e.draft ∧ record.Fills
      ([("source", .text e.source), ("target", .text e.target)]
        ++ optionalMember "id" e.id ++ optionalMember "source_handle" e.handle) fill := by
  have putId (s : String) : record.Takes "id" (.text s) fun d => { d with id := some (some s) } := ⟨_, rfl, rfl⟩
  have putHandle (s : String) : record.Takes "source_handle" (.text s) fun d => { d with handle := some (some s) } :=
    ⟨_, rfl, rfl⟩
  have begun : record.Fills [("source", .text e.source)] _ := .snoc .nil List.not_mem_nil ⟨_, rfl, rfl⟩
  have ended : record.Fills [("source", .text e.source), ("target", .text e.target)] _ :=
    .snoc begun (by simp) ⟨_, rfl, rfl⟩
  have named := ended.optional (by simp) putId e.id
  refine ⟨_, ?_, named.optional ?_ putHandle e.handle⟩
  · obtain ⟨id, source, target, handle⟩ := e
    cases id <;> cases handle <;> rfl
  · rw [List.map_append, List.mem_append, not_or]
    exact ⟨by simp, not_mem_optionalMember (by decide) _⟩

theorem ofValue_toJson (e : EdgeDefinition) : record.decoder.ofValue e.toJson = .ok e := by
  obtain ⟨fill, filled, fills⟩ := e.fills_draft
  rw [toJson, Record.ofValue_ofMembers record_independent fills, filled, complete_draft]

end EdgeDefinition

/-! ## Workflows -/

namespace Definition

variable (fresh : Uuid)

theorem record_independent : (record fresh).Independent := by
  simp only [Record.Independent, record, List.pairwise_cons, List.forall_mem_cons, List.not_mem_nil, false_imp_iff,
    implies_true, List.Pairwise.nil, and_true]
  refine ⟨⟨?_, ?_, ?_⟩, ⟨?_, ?_⟩, ?_⟩
  all_goals
    apply Field.apart_map
    intro _ _ draft
    rfl

/-- The draft of a workflow whose members have all been taken. -/
def draft (d : Definition) : DefinitionDraft := ⟨some d.id, some d.name, some d.nodes, some d.edges⟩

theorem takes_id (id : Uuid) : (record fresh).Takes "id" (.text id.render) fun d => { d with id := some id } := by
  have read : Decoder.uuid.ofValue (.text id.render) = .ok id := by
    rw [Decoder.uuid_ofValue, Uuid.render, String.toList_ofList, Uuid.readAny_chars]
    rfl
  exact Record.takes_map rfl read rfl

theorem known_nodes : (record fresh).fields.find? (·.key == "nodes") =
    some ⟨"nodes", (·.nodes.isSome), NodeDefinition.record.decoder.list.map fun v d => { d with nodes := some v }⟩ :=
  rfl

theorem takes_edges (edges : List EdgeDefinition) : (record fresh).Takes "edges"
    (.list (edges.map EdgeDefinition.toJson)) fun d => { d with edges := some edges } := by
  have read : EdgeDefinition.record.decoder.list.ofValue (.list (edges.map EdgeDefinition.toJson)) = .ok edges :=
    Decoder.list_ofValue_iff.2 (List.forall₂_same.2 fun e _ => e.ofValue_toJson)
  exact Record.takes_map rfl read rfl

/-- The members that a workflow is written with. -/
def members (d : Definition) : List (String × Json) :=
  [("id", .text d.id.render), ("name", .text d.name), ("nodes", .list (d.nodes.map NodeDefinition.toJson)),
    ("edges", .list (d.edges.map EdgeDefinition.toJson))]

/-- The members that a workflow is written with fill its draft, with the nodes that its nodes are read as. -/
theorem fills_draft (d : Definition) {nodes : List NodeDefinition}
    (read : NodeDefinition.record.decoder.list.ofValue (.list (d.nodes.map NodeDefinition.toJson)) = .ok nodes) :
    ∃ fill, fill (record fresh).empty = draft { d with nodes } ∧ (record fresh).Fills d.members fill := by
  have identified : (record fresh).Fills [("id", .text d.id.render)] _ :=
    .snoc .nil List.not_mem_nil (takes_id fresh d.id)
  have named : (record fresh).Fills [("id", .text d.id.render), ("name", .text d.name)] _ :=
    .snoc identified (by simp) ⟨_, rfl, rfl⟩
  have listed := named.snoc (by simp) (Record.takes_map (known_nodes fresh) read rfl)
  exact ⟨_, rfl, listed.snoc (by simp) (takes_edges fresh d.edges)⟩

/-- A workflow is read back with what its nodes are read as, if they are. -/
theorem ofValue_toJson_iff (d e : Definition) :
    (decoder fresh).ofValue d.toJson = .ok e ↔
      ∃ nodes, List.Forall₂ (fun n m => NodeDefinition.record.decoder.ofValue n.toJson = .ok m) d.nodes nodes ∧
        e = { d with nodes } := by
  have back {nodes : List NodeDefinition}
      (read : NodeDefinition.record.decoder.list.ofValue (.list (d.nodes.map NodeDefinition.toJson)) = .ok nodes) :
      (decoder fresh).ofValue d.toJson = .ok { d with nodes } := by
    obtain ⟨fill, filled, fills⟩ := d.fills_draft fresh read
    change (record fresh).decoder.ofValue (ofMembers d.members) = _
    rw [Record.ofValue_ofMembers (record_independent fresh) fills, filled]
    rfl
  constructor
  · intro decoded
    have member : ("nodes", .list (d.nodes.map NodeDefinition.toJson)) ∈ Object.ofList d.members := by
      rw [(Object.ofList_ordered _).mem_iff_find?]
      simp [Object.ofList, members, Object.find?_insert]
    obtain ⟨nodes, read⟩ := Record.decodes_of_ofValue (known_nodes fresh) member decoded
    exact ⟨nodes, Decoder.list_ofValue_iff.1 read, Except.ok.inj (decoded.symm.trans (back read))⟩
  · rintro ⟨nodes, read, rfl⟩
    exact back (Decoder.list_ofValue_iff.2 read)

/-- A workflow is read back as it was if no settings of its nodes hold embedded text. -/
theorem ofValue_toJson_self_iff (d : Definition) :
    (decoder fresh).ofValue d.toJson = .ok d ↔ ∀ n ∈ d.nodes, n.config.Unembedded := by
  rw [ofValue_toJson_iff]
  simp only [← NodeDefinition.ofValue_toJson_self_iff]
  constructor
  · rintro ⟨nodes, read, same⟩
    have kept : d.nodes = nodes := congrArg Definition.nodes same
    rw [← kept] at read
    exact List.forall₂_same.1 read
  · exact fun read => ⟨d.nodes, List.forall₂_same.2 read, rfl⟩

end Definition

/-- A workflow that is written as JSON is read back from it exactly if no settings of its nodes hold an object that
begins with the key of embedded text: then it is the same workflow under the same id, whatever id would have been given
to one without, and so with the same rows and the same verdict. -/
theorem Definition.decoded_as_written (fresh : Uuid) (d : Definition) :
    (∃ read, (Definition.decoder fresh).ofValue d.toJson = .ok read ∧ read = d ∧ read.id = d.id ∧
      (∀ now, read.rows now = d.rows now) ∧ read.toWorkflow.validate = d.toWorkflow.validate) ↔
    ∀ n ∈ d.nodes, n.config.Unembedded := by
  rw [← d.ofValue_toJson_self_iff fresh]
  constructor
  · rintro ⟨_, read, rfl, -⟩
    exact read
  · exact fun read => ⟨d, read, rfl, rfl, fun _ => rfl, rfl⟩

/-- A workflow of one node whose settings are an object that stands for a number. -/
def embeddingWorkflow : Definition where
  id := .nil
  name := "embedded"
  nodes := [⟨"start", "trigger", none, none, .object [(embeddedKey, .text "1")]⟩]
  edges := []

/-- When that workflow is read back, its settings are the number. -/
theorem Definition.embedded_settings_replaced :
    (Definition.decoder .nil).ofValue embeddingWorkflow.toJson =
        .ok { embeddingWorkflow with nodes := [⟨"start", "trigger", none, none, .ofNat 1⟩] } ∧
      (Definition.decoder .nil).ofValue embeddingWorkflow.toJson ≠ .ok embeddingWorkflow := by
  constructor
  · decide +kernel
  · decide +kernel

end WorkflowEngine
