/-
Module: WorkflowEngine.Cli.Arguments
Layer: Cli
Purpose: The arguments of the command line, and the command they ask for.
Imports: WorkflowEngine.Store.Relational.Address
Trusted boundary: none
Main exports: Command, Subcommand, Stop, Command.read
-/
import WorkflowEngine.Store.Relational.Address

/-!
# Arguments

A command line names a subcommand, then at most one plain argument and any number of options, each at most once.
An option that is not given is taken from the environment if it has a variable there, or has its default.
Arguments are read from left to right, and the first that cannot be used ends the reading.
-/

namespace WorkflowEngine.Cli

/-- How a database is reached. -/
structure DatabaseSettings where
  url : String
  connections : Nat
  deriving DecidableEq, Repr

/-- How executions are run. -/
structure EngineSettings where
  maxSteps : Nat
  webhookTimeoutSecs : Nat
  deriving DecidableEq, Repr

/-- What the program is asked to do. -/
inductive Command where
  | serve (bind : String) (database : DatabaseSettings) (engine : EngineSettings)
  | migrate (database : DatabaseSettings)
  | importFile (path : String) (database : DatabaseSettings)
  | run (executionId : String) (database : DatabaseSettings) (engine : EngineSettings)
  | validate (path : String)
  | simulate (path payload : String) (engine : EngineSettings)
  deriving DecidableEq, Repr

/-- The names of commands. -/
inductive Subcommand where
  | serve
  | migrate
  | importFile
  | run
  | validate
  | simulate
  deriving DecidableEq, Repr

/-- Why there is no command: the arguments cannot be used, or ask for a text only. -/
inductive Stop where
  | misuse
  | help (about : Option Subcommand)
  | version
  deriving DecidableEq, Repr

/-! ## What each command takes -/

/-- An option. -/
structure OptionSpec where
  name : String
  /-- The variable that is used when the option is not given. -/
  source : Option String
  default? : Option String
  /-- If the value is a natural number, what it is below. -/
  limit? : Option Nat
  deriving DecidableEq, Repr

/-- The options of a database. -/
def databaseOptions : List OptionSpec :=
  [⟨"database-url", some "DATABASE_URL", none, none⟩,
    ⟨"max-connections", none, some "10", some (Nat.pow 2 32)⟩]

/-- The options of running. -/
def engineOptions : List OptionSpec :=
  [⟨"max-steps", some "ENGINE_MAX_STEPS", some "100", some (Nat.pow 2 64)⟩,
    ⟨"webhook-timeout-secs", some "ENGINE_WEBHOOK_TIMEOUT_SECS", some "30", some (Nat.pow 2 64)⟩]

namespace Subcommand

/-- The commands by their names. -/
def all : List (String × Subcommand) :=
  [("serve", .serve), ("migrate", .migrate), ("import", .importFile), ("run", .run), ("validate", .validate),
    ("simulate", .simulate)]

/-- The options of a command. -/
def options : Subcommand → List OptionSpec
  | .serve => ⟨"bind", none, some "0.0.0.0:8080", none⟩ :: databaseOptions ++ engineOptions
  | .migrate => databaseOptions
  | .importFile => databaseOptions
  | .run => databaseOptions ++ engineOptions
  | .validate => []
  | .simulate => ⟨"trigger", none, some "\x7b\x7d", none⟩ :: engineOptions

/-- Whether a command takes a plain argument that is a path. -/
def takesPath : Subcommand → Bool
  | .importFile | .validate | .simulate => true
  | .serve | .migrate | .run => false

/-- Whether a command takes a plain argument. -/
def takesPlain : Subcommand → Bool
  | .run => true
  | c => c.takesPath

end Subcommand

/-! ## Reading -/

/-- What was given so far. -/
structure Given where
  plain : Option String
  options : List (String × String)
  deriving DecidableEq, Repr

/-- Whether a value can be the value of an option. -/
def OptionSpec.admits (o : OptionSpec) (value : String) : Bool :=
  match o.limit? with
  | none => true
  | some limit => (readNatural limit value).toBool

/-- Takes the value of an option. -/
def Given.takeOption (g : Given) (o : OptionSpec) (value : String) : Except Stop Given :=
  if (g.options.lookup o.name).isSome || !o.admits value then .error .misuse
  else .ok { g with options := (o.name, value) :: g.options }

/-- Takes a plain argument.  A path is never empty. -/
def Given.takePlain (g : Given) (c : Subcommand) (value : String) : Except Stop Given :=
  if !c.takesPlain || g.plain.isSome || (c.takesPath && value.isEmpty) then .error .misuse
  else .ok { g with plain := some value }

/-- What an argument is by its first characters. -/
inductive ArgumentShape where
  | plain
  /-- Nothing after this is an option. -/
  | endOfOptions
  | option (name : String) (value : Option String)
  | short (letter : Char)

/-- What an argument is by its first characters. -/
def ArgumentShape.of (argument : String) : ArgumentShape :=
  match argument.toList with
  | ['-', '-'] => .endOfOptions
  | '-' :: '-' :: rest =>
      let (name, value) := rest.span (· ≠ '=')
      .option (String.ofList name) (if value.isEmpty then none else some (String.ofList (value.drop 1)))
  | '-' :: letter :: _ => .short letter
  | _ => .plain

/-- Whether an argument can be the value of the option before it. -/
def canFollow (argument : String) : Bool :=
  match ArgumentShape.of argument with
  | .plain => true
  | _ => false

/-- Reads the arguments of a command; `options` tells whether they may still be options. -/
def readGiven (c : Subcommand) : (options : Bool) → Given → List String → Except Stop Given
  | _, g, [] => .ok g
  | false, g, argument :: rest => do
      let g ← g.takePlain c argument
      readGiven c false g rest
  | true, g, argument :: rest =>
      match ArgumentShape.of argument with
      | .plain => do
          let g ← g.takePlain c argument
          readGiven c true g rest
      | .endOfOptions => readGiven c false g rest
      | .short letter => .error (if letter = 'h' then .help (some c) else .misuse)
      | .option name value =>
          match c.options.find? (·.name = name), value, rest with
          | some o, some value, rest => do
              let g ← g.takeOption o value
              readGiven c true g rest
          | some o, none, value :: rest =>
              if canFollow value then do
                let g ← g.takeOption o value
                readGiven c true g rest
              else .error .misuse
          | some _, none, [] => .error .misuse
          | none, none, _ => .error (if name = "help" then .help (some c) else .misuse)
          | none, some _, _ => .error .misuse

/-! ## Commands -/

variable (setting : String → Option String)

/-- The value of an option: given, from the environment, or its default. -/
def Given.value (g : Given) (o : OptionSpec) : Except Stop String :=
  let value := ((g.options.lookup o.name).or (o.source.bind setting)).or o.default?
  match value with
  | some v => if o.admits v then .ok v else .error .misuse
  | none => .error .misuse

/-- The values of the options of a command, by name. -/
def Given.values (g : Given) (c : Subcommand) : Except Stop (List (String × String)) :=
  c.options.mapM fun o => (g.value setting o).map fun v => (o.name, v)

/-- A value among values. -/
def valueOf (values : List (String × String)) (name : String) : String := (values.lookup name).getD ""

/-- A natural number among values. -/
def naturalOf (values : List (String × String)) (name : String) : Nat :=
  (readNatural (Nat.pow 2 64) (valueOf values name)).toOption.getD 0

/-- The settings of a database among values. -/
def databaseOf (values : List (String × String)) : DatabaseSettings :=
  ⟨valueOf values "database-url", naturalOf values "max-connections"⟩

/-- The settings of running among values. -/
def engineOf (values : List (String × String)) : EngineSettings :=
  ⟨naturalOf values "max-steps", naturalOf values "webhook-timeout-secs"⟩

/-- The command with a plain argument and values. -/
def Subcommand.command (plain : String) (values : List (String × String)) : Subcommand → Command
  | .serve => .serve (valueOf values "bind") (databaseOf values) (engineOf values)
  | .migrate => .migrate (databaseOf values)
  | .importFile => .importFile plain (databaseOf values)
  | .run => .run plain (databaseOf values) (engineOf values)
  | .validate => .validate plain
  | .simulate => .simulate plain (valueOf values "trigger") (engineOf values)

/-- Reads the arguments of a command. -/
def readCommand (c : Subcommand) (arguments : List String) : Except Stop Command := do
  let g ← readGiven c true ⟨none, []⟩ arguments
  let values ← g.values setting c
  if c.takesPlain && g.plain.isNone then .error .misuse
  else .ok (c.command (g.plain.getD "") values)

/-- The text that is asked for by the word `help`. -/
def readHelp : List String → Stop
  | [] => .help none
  | [name] => match Subcommand.all.lookup name with
      | some c => .help (some c)
      | none => if name = "help" then .help none else .misuse
  | _ => .misuse

/-- Reads a command line. -/
def Command.read : List String → Except Stop Command
  | [] => .error .misuse
  | "help" :: rest => .error (readHelp rest)
  | first :: rest =>
      match Subcommand.all.lookup first, ArgumentShape.of first with
      | some c, _ => readCommand setting c rest
      | none, .short 'h' => .error (.help none)
      | none, .short 'V' => .error .version
      | none, .option "help" none => .error (.help none)
      | none, .option "version" none => .error .version
      | none, _ => .error .misuse

end WorkflowEngine.Cli
