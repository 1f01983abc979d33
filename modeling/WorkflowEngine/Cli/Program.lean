/-
Module: WorkflowEngine.Cli.Program
Layer: Cli
Purpose: What each command of the program does.
Imports: WorkflowEngine.Cli.Failure, WorkflowEngine.Cli.Help, WorkflowEngine.Execution.Executor,
  WorkflowEngine.Http.Listening, WorkflowEngine.Store.Memory, WorkflowEngine.Store.Relational.Migration,
  WorkflowEngine.World
Trusted boundary: none
Main exports: Machine, Printed, Machine.startService, Command.perform, runProgram
-/
import WorkflowEngine.Cli.Failure
import WorkflowEngine.Cli.Help
import WorkflowEngine.Execution.Executor
import WorkflowEngine.Http.Listening
import WorkflowEngine.Store.Memory
import WorkflowEngine.Store.Relational.Migration
import WorkflowEngine.World

/-!
# Commands

A command reads files, may open a database, and prints a result or a failure.  A database that was opened is
handed back in the state in which the command leaves it.
-/

namespace WorkflowEngine.Cli

/-- What commands find around them. -/
structure Machine where
  /-- The value of a variable of the environment. -/
  setting : String → Option String
  /-- The content of a file, or why it cannot be read. -/
  file : String → Except String String
  /-- What is found at the address of a database. -/
  connect : DatabaseAddress → Except DatabaseFault Server
  environment : Environment
  /-- The id of a workflow that names none. -/
  fresh : Uuid
  now : Instant

/-- What a command prints, and the code it ends with. -/
structure Printed where
  exit : Nat
  stdout : String
  stderr : String
  deriving DecidableEq, Repr

namespace Printed

/-- A command that succeeds. -/
def success (stdout : String) : Printed := ⟨0, stdout, ""⟩

/-- A command that fails. -/
def failure (f : Failure) : Printed := ⟨1, "", f.render⟩

/-- What a command prints as its result, or else its failure. -/
def ofResult : Except Failure String → Printed
  | .ok stdout => .success stdout
  | .error f => .failure f

end Printed

variable (m : Machine)

/-! ## Parts of commands -/

/-- The executor with settings. -/
def EngineSettings.executor (s : EngineSettings) : Executor :=
  ⟨Registry.builtins (s.webhookTimeoutSecs * 1000) 60000, s.maxSteps, 300000⟩

/-- Reads the workflow in a file. -/
def Machine.readDefinition (path : String) : Except Failure Definition :=
  match m.file path with
  | .error reason => .error ⟨"cannot read file " ++ path, [reason]⟩
  | .ok content =>
      ((Definition.decoder m.fresh).readText content).mapError fun l =>
        ⟨"invalid workflow JSON in " ++ path, [l.fault.message]⟩

/-- Opens a database. -/
def Machine.openServer (s : DatabaseSettings) : Except Failure Server :=
  (openDatabase m.connect s.url s.connections).mapError fun f =>
    (Failure.ofStore f).during "failed to connect to database"

/-- What is done in a world, and may fail. -/
abbrev Act (σ α : Type) := ExceptT Failure (StateM (World σ)) α

/-- Waits for something in a world. -/
def Machine.wait {σ α : Type} [Store σ] (c : ExceptT EngineError Awaited α) : Act σ α := fun w =>
  let (result, w) := c.run.run m.environment w
  match result with
  | some (.ok a) => (.ok a, w)
  | some (.error e) => (.error (.ofEngine e), w)
  | none => (.error ⟨"the command broke down", []⟩, w)

/-- Carries out a task in a world. -/
def Machine.carryOut {σ α : Type} [Store σ] (task : Task α) : Act σ α := m.wait task.inline

/-- Does something in a world in which nothing has happened yet. -/
def Machine.act {σ α : Type} (act : Act σ α) (store : σ) : Except Failure α × σ :=
  let (result, w) := act.run { World.start store with now := m.now }
  (result, w.store)

/-! ## Commands -/

/-- What is printed of a workflow that is valid. -/
def validReport (w : Workflow) (reachable : List String) : String :=
  let unreachable := (w.nodes.map (·.id)).filter (! reachable.contains ·)
  "✅ Workflow is valid. Reachable from trigger: " ++ quotedList reachable ++ "\n"
    ++ (if unreachable.isEmpty then "" else "⚠️  Never visited: " ++ quotedList unreachable ++ "\n")

/-- Validates a workflow. -/
def Machine.validate (path : String) : Printed :=
  match m.readDefinition path with
  | .error f => .failure f
  | .ok d =>
      match d.toWorkflow.validate with
      | .ok reachable => .success (validReport d.toWorkflow reachable)
      | .error defect => ⟨1, "", "❌ Validation failed: " ++ defect.message ++ "\n"⟩

/-- Reads the payload of a run. -/
def readPayload (text : String) : Except Failure Json :=
  match Json.ofText text with
  | .error l => .error ⟨"--trigger is not valid JSON", [l.fault.message]⟩
  | .ok (.object members) => .ok (.object members)
  | .ok _ => .error ⟨"--trigger must be a JSON object", []⟩

/-- Creates an execution, runs it, and reports on it. -/
def Machine.simulation {σ : Type} [Store σ] (x : Executor) (workflowId : Uuid) (payload : Json) : Act σ Json := do
  let execution ← m.carryOut (Executor.create workflowId payload)
  let summary ← m.wait (x.runNamed execution.id.render)
  let steps ← m.carryOut (Executor.steps execution.id)
  let finished ← m.carryOut (Executor.get execution.id)
  return .ofMembers [("summary", summary.toJson), ("execution", finished.toJson),
    ("steps", .list (steps.map Step.toJson))]

/-- Runs a workflow in memory. -/
def Machine.simulate (path payload : String) (engine : EngineSettings) : Except Failure String := do
  let payload ← readPayload payload
  let d ← m.readDefinition path
  let store := MemoryStore.empty.putWorkflow (d.rows m.now)
  let report ← (m.act (m.simulation engine.executor d.id payload) store).1
  .ok (report.indented ++ "\n")

/-- Stores a valid workflow, and prints its id. -/
def Machine.importFile (path : String) (database : DatabaseSettings) :
    Except Failure (Except Failure String × Server) := do
  let d ← m.readDefinition path
  let _ ← d.toWorkflow.validate.mapError fun defect => ⟨"workflow failed validation", [defect.message]⟩
  let server ← m.openServer database
  let (result, server) := server.saveWorkflow (d.rows m.now)
  .ok ((result.mapError Failure.ofStore).map fun () => d.id.render ++ "\n", server)

/-- Brings the schema of a database up to date. -/
def Machine.migrate (database : DatabaseSettings) : Except Failure (Except Failure String × Server) := do
  let server ← m.openServer database
  let (result, server) := server.migrate
  .ok ((result.mapError fun f => (Failure.ofStore f).during "migration failed").map fun () => "", server)

/-- Runs an execution, and prints the summary. -/
def Machine.run (executionId : String) (database : DatabaseSettings) (engine : EngineSettings) :
    Except Failure (Except Failure String × Server) := do
  let server ← m.openServer database
  let (result, server) := m.act (m.wait (engine.executor.runNamed executionId)) server
  .ok (result.map fun summary => summary.toJson.indented ++ "\n", server)

/-- Starts the service: opens its database and begins to listen. -/
def Machine.startService (bind : String) (database : DatabaseSettings) (engine : EngineSettings) :
    Except Failure (Executor × Server) := do
  let server ← m.openServer database
  match checkBind bind with
  | .ok () => .ok (engine.executor, server)
  | .error f => .error ⟨f.message, []⟩

/-- What is printed of what came of a database, and the database. -/
def printedOf : Except Failure (Except Failure String × Server) → Printed × Option Server
  | .ok (result, server) => (.ofResult result, some server)
  | .error f => (.failure f, none)

/-- Performs a command.  The service ends at once, for it is interrupted before the first request. -/
def Command.perform : Command → Printed × Option Server
  | .validate path => (m.validate path, none)
  | .simulate path payload engine => (.ofResult (m.simulate path payload engine), none)
  | .importFile path database => printedOf (m.importFile path database)
  | .migrate database => printedOf (m.migrate database)
  | .run executionId database engine => printedOf (m.run executionId database engine)
  | .serve bind database engine =>
      printedOf ((m.startService bind database engine).map fun (_, server) => (.ok "", server))

/-- What is printed instead of the result of a command. -/
def Stop.printed : Stop → Printed
  | .misuse => ⟨2, "", programHelp⟩
  | .help c => .success (helpText m.setting c)
  | .version => .success versionText

/-- Runs the program. -/
def runProgram (arguments : List String) : Printed × Option Server :=
  match Command.read m.setting arguments with
  | .ok c => c.perform m
  | .error stop => (stop.printed m, none)

/-- The file that a command reads. -/
def Command.path? : Command → Option String
  | .importFile path _ | .validate path | .simulate path _ _ => some path
  | _ => none

end WorkflowEngine.Cli
