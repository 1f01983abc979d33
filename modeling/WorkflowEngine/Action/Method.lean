/-
Module: WorkflowEngine.Action.Method
Layer: Action
Purpose: The HTTP methods that a webhook may use.
Imports: WorkflowEngine.Text.Blank
Trusted boundary: none
Main exports: Method, Method.read?, Method.name
-/
import WorkflowEngine.Text.Blank

/-!
# Methods
-/

namespace WorkflowEngine

/-- A method that a webhook may use. -/
inductive Method where
  | get
  | post
  | put
  | patch
  | delete
  deriving DecidableEq, Repr

namespace Method

/-- The name of a method. -/
def name : Method → String
  | .get => "GET"
  | .post => "POST"
  | .put => "PUT"
  | .patch => "PATCH"
  | .delete => "DELETE"

/-- All methods. -/
def all : List Method := [.get, .post, .put, .patch, .delete]

/-- The method with a name; letter case and white space around it make no difference. -/
def read? (s : String) : Option Method :=
  let upper := String.ofList ((trim s.toList).map Char.toUpper)
  all.find? fun m => m.name = upper

end Method

end WorkflowEngine
