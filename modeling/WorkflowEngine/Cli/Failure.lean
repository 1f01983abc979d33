/-
Module: WorkflowEngine.Cli.Failure
Layer: Cli
Purpose: Why a command fails, and how that is shown.
Imports: WorkflowEngine.Execution.Error
Trusted boundary: none
Main exports: Failure, Failure.render, Failure.ofEngine, Failure.ofStore
-/
import WorkflowEngine.Execution.Error

/-!
# Failures of commands

A failure is shown with its causes, each the cause of the one before.  Lines after the first are indented.
-/

namespace WorkflowEngine

/-- What is behind a fault of an address. -/
def AddressFault.causes : AddressFault → List String
  | .url _ | .unreadable _ => []
  | .sslMode value => ["unknown value " ++ quoted value ++ " for `ssl_mode`"]

/-- What is behind a fault of a database. -/
def DatabaseFault.causes : DatabaseFault → List String
  | .refused _ message => [message]
  | .waitedTooLong => []
  | .address f => f.message :: f.causes
  | .unreachable reason => [reason]

/-- What is behind a fault of a migration. -/
def MigrationFault.causes : MigrationFault → List String
  | .modified _ | .unfinished _ | .unknown _ => []
  | .step _ f | .run f => f.message :: f.causes

/-- What is behind a fault of a store. -/
def StoreFault.causes : StoreFault → List String
  | .notFound => []
  | .database f => f.message :: f.causes
  | .migration f => f.message :: f.causes

/-- What is behind an error of the engine. -/
def EngineError.causes : EngineError → List String
  | .store f => f.message :: f.causes
  | _ => []

namespace Cli

/-- Why a command fails. -/
structure Failure where
  message : String
  causes : List String
  deriving DecidableEq, Repr

namespace Failure

/-- A failure of the store. -/
def ofStore (f : StoreFault) : Failure := ⟨f.message, f.causes⟩

/-- A failure of the engine. -/
def ofEngine (e : EngineError) : Failure := ⟨e.message, e.causes⟩

/-- What a failure keeps from being done. -/
def during (f : Failure) (what : String) : Failure := ⟨what, f.message :: f.causes⟩

/-- A text with blanks before every line but the first. -/
def hanging (blanks : Nat) (s : String) : String :=
  String.ofList (s.toList.flatMap fun c => if c = '\n' then '\n' :: List.replicate blanks ' ' else [c])

/-- A number in front of a cause. -/
def numbered (n : Nat) (s : String) : String :=
  let digits := toString n
  "".pushn ' ' (5 - digits.length) ++ digits ++ ": " ++ hanging 7 s

/-- How causes are shown: a single one without a number. -/
def renderCauses : List String → String
  | [] => ""
  | [cause] => "\n\nCaused by:\n    " ++ hanging 4 cause
  | causes => "\n\nCaused by:" ++ String.join (causes.zipIdx.map fun (cause, n) => "\n" ++ numbered n cause)

/-- How a failure is shown. -/
def render (f : Failure) : String := "Error: " ++ f.message ++ renderCauses f.causes ++ "\n"

end Failure

end Cli

end WorkflowEngine
