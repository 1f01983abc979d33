/-
Module: WorkflowEngine.Http.Route
Layer: Http
Purpose: The resources of the service and how they are named by paths.
Imports: WorkflowEngine.Network.Percent
Trusted boundary: none
Main exports: Resource, Resource.ofPath?, Resource.reads, Resource.allowed
-/
import WorkflowEngine.Network.Percent

/-!
# Resources

A path names a resource exactly: there is no resource with a slash more or less, and none with an empty id.
Each resource is either read or posted to.
-/

namespace WorkflowEngine

/-- What can be asked of the service.  Ids are as they stand in the path. -/
inductive Resource where
  | health
  /-- The executions of a workflow. -/
  | executionsOf (workflow : List Char)
  | execution (id : List Char)
  /-- The run of an execution. -/
  | runOf (id : List Char)
  | stepsOf (id : List Char)
  deriving DecidableEq, Repr

namespace Resource

/-- The resource that the parts of a path name. -/
def ofParts? : List (List Char) → Option Resource
  | [part] => if part = "health".toList then some .health else none
  | [api, version, collection, id] =>
      if api = "api".toList ∧ version = "v1".toList ∧ collection = "executions".toList ∧ id ≠ [] then
        some (.execution id)
      else none
  | [api, version, collection, id, part] =>
      if api = "api".toList ∧ version = "v1".toList ∧ id ≠ [] then
        if collection = "workflows".toList ∧ part = "executions".toList then some (.executionsOf id)
        else if collection = "executions".toList ∧ part = "run".toList then some (.runOf id)
        else if collection = "executions".toList ∧ part = "steps".toList then some (.stepsOf id)
        else none
      else none
  | _ => none

/-- The resource that a path names. -/
def ofPath? : List Char → Option Resource
  | '/' :: rest => ofParts? (rest.splitOn '/')
  | _ => none

/-- Whether a resource is read, and not posted to. -/
def reads : Resource → Bool
  | .health | .execution _ | .stepsOf _ => true
  | .executionsOf _ | .runOf _ => false

/-- Whether a method may be used on a resource. -/
def accepts (r : Resource) (method : String) : Bool :=
  if r.reads then method = "GET" || method = "HEAD" else method = "POST"

/-- The methods that may be used on a resource. -/
def allowed (r : Resource) : String := if r.reads then "GET,HEAD" else "POST"

/-- The id in the path. -/
def id? : Resource → Option (List Char)
  | .health => none
  | .executionsOf id | .execution id | .runOf id | .stepsOf id => some id

end Resource

end WorkflowEngine
