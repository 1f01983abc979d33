/-
Module: WorkflowEngine.Store.Relational.Migration
Layer: Store
Purpose: Bringing the schema of a database up to date.
Imports: WorkflowEngine.Store.Relational.Server
Trusted boundary: none
Main exports: Server.migrate, schemaVersion
-/
import WorkflowEngine.Store.Relational.Server

/-!
# Migrations

There is one change of the schema, which creates all tables.  A database records the changes made to it.  A
record of a change that is unfinished, unknown or made with another text stops the migration.
-/

namespace WorkflowEngine

/-- The version of the change that creates the tables. -/
def schemaVersion : Int := 20240101000000

namespace Server

/-- Executes a statement without a trace in the log. -/
def performSilently (statement : Statement) (s : Server) : Except DatabaseFault statement.Result × Server :=
  let (result, after) := s.perform statement
  (result, { after with log := s.log })

/-- Creates the tables of the schema.  A table whose creation fails is not logged, and neither is the index that
comes after the tables. -/
def createTables : List TableName → Server → Except DatabaseFault Unit × Server
  | [], s =>
      match s.performSilently (.createIndex) with
      | (.ok _, s) => (.ok (), s)
      | (.error f, s) => (.error f, s)
  | table :: rest, s =>
      let log := s.log
      match s.perform (.createTable table) with
      | (.ok _, s) => createTables rest s
      | (.error f, s) => (.error f, { s with log })

/-- Makes the change in one transaction. -/
def applyChange (s : Server) : Except MigrationFault Unit × Server :=
  let before := s.tables
  match s.begin with
  | (.error f, s) => (.error (.run f), s)
  | (.ok (), s) =>
      match s.createTables Tables.schema with
      | (.error f, s) => (.error (.step schemaVersion f), s.rollBack before)
      | (.ok (), s) =>
          match s.perform (.insertMigration schemaVersion) with
          | (.error f, s) => (.error (.run f), s.rollBack before)
          | (.ok _, s) =>
              match s.commit before with
              | (.error f, s) => (.error (.run f), s)
              | (.ok (), s) =>
                  match s.performSilently (.timeMigration schemaVersion) with
                  | (.error f, s) => (.error (.run f), s)
                  | (.ok _, s) => (.ok (), s)

/-- Whether the change is still to be made; a fault if the recorded changes are not the known ones. -/
def isPending (rows : List MigrationRow) : Except MigrationFault Bool :=
  match rows.find? (·.version ≠ schemaVersion), rows with
  | some row, _ => .error (.unknown row.version)
  | none, row :: _ => if row.intact then .ok false else .error (.modified row.version)
  | none, [] => .ok true

/-- Reads the records of changes, and tells whether the change is still to be made. -/
def readHistory (s : Server) : Except MigrationFault Bool × Server :=
  match s.performSilently .selectUnfinished with
  | (.error f, s) => (.error (.run f), s)
  | (.ok (some row), s) => (.error (.unfinished row.version), s)
  | (.ok none, s) =>
      match s.performSilently .selectMigrations with
      | (.error f, s) => (.error (.run f), s)
      | (.ok rows, s) => (isPending rows, s)

/-- Brings the schema up to date. -/
def migrate (s : Server) : Except StoreFault Unit × Server :=
  match s.performSilently (.createTable .migrations) with
  | (.error f, s) => (.error (.migration (.run f)), s)
  | (.ok _, s) =>
      match s.readHistory with
      | (.error f, s) => (.error (.migration f), s)
      | (.ok false, s) => (.ok (), s)
      | (.ok true, s) =>
          let (result, s) := s.applyChange
          (result.mapError .migration, s)

end Server

end WorkflowEngine
