/-
Module: WorkflowEngine.Store.Fault
Layer: Store
Purpose: Why a call to a store fails, and the wording of each failure.
Imports: WorkflowEngine.Network.Url.Fault, WorkflowEngine.Text.Quoted
Trusted boundary: none
Main exports: AddressFault, DatabaseFault, MigrationFault, StoreFault, StoreFault.message
-/
import WorkflowEngine.Network.Url.Fault
import WorkflowEngine.Text.Quoted

/-!
# Failures of stores

A call fails because there is no such row, because the database could not be asked or refused a statement, or
because the schema could not be brought up to date.
-/

namespace WorkflowEngine

/-- Why the address of a database is no address. -/
inductive AddressFault where
  | url (fault : Url.Fault)
  | sslMode (value : String)
  | unreadable (reason : String)
  deriving DecidableEq, Repr

/-- The wording of a fault of an address. -/
def AddressFault.message : AddressFault → String
  | .url fault => fault.message
  | .sslMode value => "error with configuration: unknown value " ++ quoted value ++ " for `ssl_mode`"
  | .unreadable reason => reason

/-- Why a database gave no answer. -/
inductive DatabaseFault where
  /-- The server refused with a code and a message. -/
  | refused (code message : String)
  /-- No connection became free in time. -/
  | waitedTooLong
  /-- The address of the server is no address. -/
  | address (fault : AddressFault)
  /-- The server could not be reached. -/
  | unreachable (reason : String)
  deriving DecidableEq, Repr

/-- The wording of a fault of a database. -/
def DatabaseFault.message : DatabaseFault → String
  | .refused _ message => "error returned from database: " ++ message
  | .waitedTooLong => "pool timed out while waiting for an open connection"
  | .address fault => "error with configuration: " ++ fault.message
  | .unreachable reason => "error communicating with database: " ++ reason

/-- Why the schema could not be brought up to date. -/
inductive MigrationFault where
  | modified (version : Int)
  | unfinished (version : Int)
  | unknown (version : Int)
  | step (version : Int) (fault : DatabaseFault)
  | run (fault : DatabaseFault)
  deriving DecidableEq, Repr

/-- The wording of a fault of a migration. -/
def MigrationFault.message : MigrationFault → String
  | .modified v => "migration " ++ toString v ++ " was previously applied but has been modified"
  | .unfinished v =>
      "migration " ++ toString v
        ++ " is partially applied; fix and remove row from `_sqlx_migrations` table"
  | .unknown v =>
      "migration " ++ toString v ++ " was previously applied but is missing in the resolved migrations"
  | .step v fault => "while executing migration " ++ toString v ++ ": " ++ fault.message
  | .run fault => "while executing migrations: " ++ fault.message

/-- Why a call to a store failed. -/
inductive StoreFault where
  /-- There is no row with that id, or it is not in the state that the call needs. -/
  | notFound
  | database (fault : DatabaseFault)
  | migration (fault : MigrationFault)
  deriving DecidableEq, Repr

/-- The wording of a failure. -/
def StoreFault.message : StoreFault → String
  | .notFound => "row not found"
  | .database fault => "database query failed: " ++ fault.message
  | .migration fault => "could not apply migrations: " ++ fault.message

end WorkflowEngine
