/-
Module: WorkflowEngine.Action.Config
Layer: Action
Purpose: Reading loosely typed settings of a node.
Imports: WorkflowEngine.Json.Writer, WorkflowEngine.Number.Decimal, WorkflowEngine.Text.Blank,
  WorkflowEngine.Uuid
Trusted boundary: none
Main exports: Config, Config.string, Config.text?, Config.number?, truncated
-/
import WorkflowEngine.Json.Writer
import WorkflowEngine.Number.Decimal
import WorkflowEngine.Text.Blank
import WorkflowEngine.Uuid

/-!
# Settings of a node

Settings come from files that people write, so each reader takes what it can: any value has a text, and a
number may be written as text.
-/

namespace WorkflowEngine

/-- The settings of a node. -/
abbrev Config := Json.Object

namespace Config

/-- The text of a setting: empty if it is missing or null, as it stands if it is a text, and the JSON form of
anything else. -/
def string (config : Config) (key : String) : String :=
  match Json.Object.find? config key with
  | none | some .null => ""
  | some (.text s) => s
  | some v => v.compact

/-- A setting that is a text. -/
def text? (config : Config) (key : String) : Option String :=
  (Json.Object.find? config key).bind Json.text?

/-- A setting that is a finite number or the text of one. -/
def number? (config : Config) (key : String) : Option Binary64 :=
  let x := match Json.Object.find? config key with
    | some (.number n) => some n.toBinary64
    | some (.text s) => Binary64.read? (trim s.toList)
    | _ => none
  x.filter Binary64.isFinite

end Config

/-- The first `limit` characters of a text. -/
def truncated (s : String) (limit : Nat) : String := String.ofList (s.toList.take limit)

end WorkflowEngine
