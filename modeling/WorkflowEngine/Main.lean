/-
Module: WorkflowEngine.Main
Layer: Cli
Purpose: The program: arguments, environment, files and output.
Imports: WorkflowEngine.Cli.Program, Std.Time.DateTime.Timestamp
Trusted boundary: input and output
Main exports: main
-/
import Std.Time.DateTime.Timestamp
import WorkflowEngine.Cli.Program

/-!
# The program

Everything that commands need from outside is gathered before the command is performed.  The program has no way
to reach a server, so that a command that opens a database ends as with one that does not answer.  Nothing is
sent either: webhooks get no response.  Pauses are counted, not waited for.
-/

namespace WorkflowEngine.Cli

/-- The variables that options can be taken from. -/
def knownVariables : List String := (Subcommand.all.flatMap fun (_, c) => c.options).filterMap (·.source)

/-- Reads a file, or tells why it cannot be read. -/
def readFile (path : String) : IO (Except String String) := do
  try
    let bytes ← IO.FS.readBinFile path
    match String.fromUTF8? bytes with
    | some content => return .ok content
    | none => return .error "stream did not contain valid UTF-8"
  catch
    | .noFileOrDirectory .. => return .error "No such file or directory (os error 2)"
    | .permissionDenied .. => return .error "Permission denied (os error 13)"
    | e => return .error (toString e)

/-- A number that is not easily guessed. -/
def randomNumber : IO Nat := do
  let bytes ← IO.getRandomBytes 16
  return bytes.toList.foldl (fun n b => n * 256 + b.toNat) 0

/-- The machine on which a command finds one file. -/
def localMachine (setting : List (String × String)) (file : Except String String) (seed now : Nat) :
    Machine where
  setting name := setting.lookup name
  file _ := file
  connect a := .error a.silence
  environment := {
    transport _ _ := .answered 0 (.error (.request "no network"))
    mailer _ _ := .ok ()
    faults _ _ := none
    ids n := .random (seed + n + 1)
    breakdown := "the task broke down" }
  fresh := .random seed
  now := now

/-- Runs the program on the machine at hand. -/
def runHere (arguments : List String) : IO Printed := do
  let setting ← knownVariables.filterMapM fun name => do
    return (← IO.getEnv name).map fun value => (name, value)
  let path := match Command.read (fun name => setting.lookup name) arguments with
    | .ok c => c.path?
    | .error _ => none
  let file ← match path with
    | some path => readFile path
    | none => pure (.error "No such file or directory (os error 2)")
  let now ← Std.Time.Timestamp.now
  let m := localMachine setting file (← randomNumber) now.toMillisecondsSinceUnixEpoch.val.toNat
  return (runProgram m arguments).1

end WorkflowEngine.Cli

/-- Prints what a command prints, and ends with its code. -/
def main (arguments : List String) : IO UInt32 := do
  let printed ← WorkflowEngine.Cli.runHere arguments
  (← IO.getStdout).putStr printed.stdout
  (← IO.getStderr).putStr printed.stderr
  return UInt32.ofNat printed.exit
