/-
Module: WorkflowEngine.Store.Relational.Address
Layer: Store
Purpose: Where a database is, and how it is opened.
Imports: WorkflowEngine.Network.Screening, WorkflowEngine.Network.Url.Query,
  WorkflowEngine.Store.Fault
Trusted boundary: none
Main exports: DatabaseAddress, DatabaseAddress.read, DatabaseAddress.silence, openDatabase
-/
import WorkflowEngine.Network.Screening
import WorkflowEngine.Network.Url.Query
import WorkflowEngine.Store.Fault

/-!
# Addresses of databases

A database is named by a URL.  Settings in its query go before its parts, and a later setting before an earlier
one.  A database behind a socket is named by the folder of the socket, as the host.
-/

namespace WorkflowEngine

/-- Where a database is. -/
structure DatabaseAddress where
  host : String
  port : Nat
  /-- The folder of a socket, which goes before host and port. -/
  socket : Option String
  deriving DecidableEq, Repr

/-- Reads digits after a number of which some are read, below a limit. -/
def readNaturalFrom (limit : Nat) : (sofar : Nat) → List Char → Except String Nat
  | n, [] => .ok n
  | n, c :: rest =>
      if !c.isDigit then .error "invalid digit found in string"
      else
        let next := n * 10 + (c.toNat - '0'.toNat)
        if next < limit then readNaturalFrom limit next rest
        else .error "number too large to fit in target type"

/-- Reads a natural number below a limit. -/
def readNatural (limit : Nat) (s : String) : Except String Nat :=
  match s.toList with
  | [] => .error "cannot parse integer from empty string"
  | ['+'] => .error "invalid digit found in string"
  | '+' :: cs => readNaturalFrom limit 0 cs
  | cs => readNaturalFrom limit 0 cs

namespace DatabaseAddress

/-- Where a database is if nothing is said. -/
def standard : DatabaseAddress := ⟨"localhost", 5432, none⟩

/-- The ways to protect a connection. -/
def sslModes : List String := ["disable", "allow", "prefer", "require", "verify-ca", "verify-full"]

/-- Decodes a part of a URL. -/
def decodePart (s : String) : Except AddressFault String :=
  match Utf8.complaint? (Percent.bytes s.toList) with
  | some reason => .error (.unreadable reason)
  | none => .ok (String.ofList (Utf8.lossy (Percent.bytes s.toList)))

/-- The address with the host of a URL. -/
def withHost (a : DatabaseAddress) (host : String) : Except AddressFault DatabaseAddress :=
  if (Percent.bytes host.toList).head? = some '/'.toNat then
    (decodePart host).map fun folder => { a with socket := some folder }
  else .ok { a with host }

/-- The address with a setting.  Settings that say nothing about the place are checked only. -/
def withSetting (a : DatabaseAddress) (name value : String) : Except AddressFault DatabaseAddress :=
  match name with
  | "sslmode" | "ssl-mode" =>
      if sslModes.contains (value.map Char.toLower) then .ok a else .error (.sslMode value)
  | "statement-cache-capacity" => ((readNatural (Nat.pow 2 64) value).mapError .unreadable).map fun _ => a
  | "host" => .ok (if value.startsWith "/" then { a with socket := some value } else { a with host := value })
  | "hostaddr" =>
      match Address.read? value with
      | some _ => .ok { a with host := value }
      | none => .error (.unreadable "invalid IP address syntax")
  | "port" => ((readNatural (Nat.pow 2 16) value).mapError .unreadable).map fun port => { a with port }
  | _ => .ok a

/-- The address that a URL names. -/
def ofUrl (u : Url) : Except AddressFault DatabaseAddress := do
  let a ← match u.hostText? with
    | some host => standard.withHost host
    | none => .ok standard
  let a := { a with port := u.port.getD a.port }
  let _ ← decodePart u.username
  let _ ← decodePart u.password
  let _ ← decodePart (String.ofList (u.path.render.toList.dropWhile (· = '/')))
  (Url.readForm (u.query.getD "")).foldlM (fun a (name, value) => a.withSetting name value) a

/-- Reads an address. -/
def read (s : String) : Except AddressFault DatabaseAddress :=
  match Url.read s with
  | .ok u => ofUrl u
  | .error f => .error (.url f)

/-- The folder of the socket of an address. -/
def folder? (a : DatabaseAddress) : Option String :=
  a.socket.or (if a.host.startsWith "/" then some a.host else none)

/-- What comes of an address where nobody listens.  A missing socket is a fault at once; a host is asked again
until the time to wait is over. -/
def silence (a : DatabaseAddress) : DatabaseFault :=
  match a.folder? with
  | some folder =>
      if (folder ++ "/.s.PGSQL." ++ toString a.port).utf8ByteSize < 108 then
        .unreachable "No such file or directory (os error 2)"
      else .unreachable "path must be shorter than SUN_LEN"
  | none => .waitedTooLong

end DatabaseAddress

/-- Opens the database at an address with at most some connections; `connect` is what is found at each place.
Without any connection there is none to wait for. -/
def openDatabase {σ : Type} (connect : DatabaseAddress → Except DatabaseFault σ) (address : String)
    (connections : Nat) : Except StoreFault σ :=
  match DatabaseAddress.read address with
  | .error f => .error (.database (.address f))
  | .ok a => if connections = 0 then .error (.database .waitedTooLong) else (connect a).mapError .database

end WorkflowEngine
