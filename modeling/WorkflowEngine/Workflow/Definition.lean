/-
Module: WorkflowEngine.Workflow.Definition
Layer: Workflow
Purpose: Workflow files: their shape, their JSON form, and the rows they are stored as.
Imports: WorkflowEngine.Json.Decoder, WorkflowEngine.Workflow.Basic
Trusted boundary: none
Main exports: Definition, Definition.decoder, Definition.toJson, Definition.rows, Definition.toWorkflow
-/
import WorkflowEngine.Json.Decoder
import WorkflowEngine.Workflow.Basic

/-!
# Workflow files

A file names a workflow and lists its nodes and edges.  An id that the file leaves out is generated; edges
without an id are numbered by their position.  Optional fields that are absent are not written.
-/

namespace WorkflowEngine

/-- A node as a file writes it. -/
structure NodeDefinition where
  id : String
  type : String
  actionType : Option String
  label : Option String
  config : Json
  deriving DecidableEq, Repr

/-- An edge as a file writes it. -/
structure EdgeDefinition where
  id : Option String
  source : String
  target : String
  handle : Option String
  deriving DecidableEq, Repr

/-- A workflow as a file writes it. -/
structure Definition where
  id : Uuid
  name : String
  nodes : List NodeDefinition
  edges : List EdgeDefinition
  deriving DecidableEq, Repr

open Json

/-! ## Decoding -/

/-- The fields of a node seen so far. -/
structure NodeDraft where
  id : Option String
  type : Option String
  actionType : Option (Option String)
  label : Option (Option String)
  config : Option Json

/-- The shape of a node. -/
def NodeDefinition.record : Record NodeDraft NodeDefinition where
  name := "NodeDefinition"
  fields := [
    ⟨"id", (·.id.isSome), Decoder.text.map fun v d => { d with id := some v }⟩,
    ⟨"type", (·.type.isSome), Decoder.text.map fun v d => { d with type := some v }⟩,
    ⟨"action_type", (·.actionType.isSome),
      Decoder.text.nullable.map fun v d => { d with actionType := some v }⟩,
    ⟨"label", (·.label.isSome), Decoder.text.nullable.map fun v d => { d with label := some v }⟩,
    ⟨"config", (·.config.isSome), Decoder.any.map fun v d => { d with config := some v }⟩]
  empty := ⟨none, none, none, none, none⟩
  complete missing d := do
    let id ← require missing "id" d.id
    let type ← require missing "type" d.type
    .ok ⟨id, type, d.actionType.getD none, d.label.getD none, d.config.getD .null⟩

/-- The fields of an edge seen so far. -/
structure EdgeDraft where
  id : Option (Option String)
  source : Option String
  target : Option String
  handle : Option (Option String)

/-- The shape of an edge. -/
def EdgeDefinition.record : Record EdgeDraft EdgeDefinition where
  name := "EdgeDefinition"
  fields := [
    ⟨"id", (·.id.isSome), Decoder.text.nullable.map fun v d => { d with id := some v }⟩,
    ⟨"source", (·.source.isSome), Decoder.text.map fun v d => { d with source := some v }⟩,
    ⟨"target", (·.target.isSome), Decoder.text.map fun v d => { d with target := some v }⟩,
    ⟨"source_handle", (·.handle.isSome),
      Decoder.text.nullable.map fun v d => { d with handle := some v }⟩]
  empty := ⟨none, none, none, none⟩
  complete missing d := do
    let source ← require missing "source" d.source
    let target ← require missing "target" d.target
    .ok ⟨d.id.getD none, source, target, d.handle.getD none⟩

/-- The fields of a workflow seen so far. -/
structure DefinitionDraft where
  id : Option Uuid
  name : Option String
  nodes : Option (List NodeDefinition)
  edges : Option (List EdgeDefinition)

/-- The shape of a workflow; `fresh` is the id of one that names none. -/
def Definition.record (fresh : Uuid) : Record DefinitionDraft Definition where
  name := "WorkflowDefinition"
  fields := [
    ⟨"id", (·.id.isSome), Decoder.uuid.map fun v d => { d with id := some v }⟩,
    ⟨"name", (·.name.isSome), Decoder.text.map fun v d => { d with name := some v }⟩,
    ⟨"nodes", (·.nodes.isSome),
      NodeDefinition.record.decoder.list.map fun v d => { d with nodes := some v }⟩,
    ⟨"edges", (·.edges.isSome),
      EdgeDefinition.record.decoder.list.map fun v d => { d with edges := some v }⟩]
  empty := ⟨none, none, none, none⟩
  complete missing d := do
    let nodes ← require missing "nodes" d.nodes
    .ok ⟨d.id.getD fresh, d.name.getD "", nodes, d.edges.getD []⟩

/-- Decodes a workflow; `fresh` is the id of one that names none. -/
def Definition.decoder (fresh : Uuid) : Decoder Definition := (Definition.record fresh).decoder

/-- Decodes an edge. -/
def EdgeDefinition.decoder : Decoder EdgeDefinition := EdgeDefinition.record.decoder

/-! ## Encoding -/

/-- A member that is left out when there is nothing to write. -/
def optionalMember (key : String) (value : Option String) : List (String × Json) :=
  value.toList.map fun s => (key, .text s)

/-- The JSON form of a node. -/
def NodeDefinition.toJson (n : NodeDefinition) : Json :=
  ofMembers ([("id", .text n.id), ("type", .text n.type), ("config", n.config)]
    ++ optionalMember "action_type" n.actionType ++ optionalMember "label" n.label)

/-- The JSON form of an edge. -/
def EdgeDefinition.toJson (e : EdgeDefinition) : Json :=
  ofMembers ([("source", .text e.source), ("target", .text e.target)]
    ++ optionalMember "id" e.id ++ optionalMember "source_handle" e.handle)

/-- The JSON form of a workflow. -/
def Definition.toJson (d : Definition) : Json :=
  ofMembers [("id", .text d.id.render), ("name", .text d.name),
    ("nodes", .list (d.nodes.map NodeDefinition.toJson)),
    ("edges", .list (d.edges.map EdgeDefinition.toJson))]

/-! ## Storing -/

/-- The rows that a workflow is stored as. -/
structure Rows where
  workflow : WorkflowRow
  nodes : List NodeRow
  edges : List EdgeRow
  deriving DecidableEq, Repr

/-- The row of a node. -/
def NodeDefinition.row (workflowId : Uuid) (n : NodeDefinition) : NodeRow :=
  ⟨n.id, workflowId, n.type, n.actionType, n.label, n.config⟩

/-- The row of an edge at a position. -/
def EdgeDefinition.row (workflowId : Uuid) (e : EdgeDefinition) (position : Nat) : EdgeRow :=
  ⟨e.id.getD ("e" ++ toString position), workflowId, e.source, e.target, e.handle⟩

/-- The rows of a workflow that is stored at a given time. -/
def Definition.rows (d : Definition) (now : Instant) : Rows where
  workflow := ⟨d.id, d.name, now⟩
  nodes := d.nodes.map (·.row d.id)
  edges := d.edges.zipIdx.map fun (e, i) => e.row d.id i

/-- The workflow that stored rows make up. -/
def Rows.toWorkflow (rows : Rows) : Workflow := .ofRows rows.workflow rows.nodes rows.edges

/-- The workflow that a file defines. -/
def Definition.toWorkflow (d : Definition) : Workflow := (d.rows 0).toWorkflow

end WorkflowEngine
