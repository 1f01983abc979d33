/-
Module: WorkflowEngine.Http.Listening
Layer: Http
Purpose: Where the service can listen.
Imports: WorkflowEngine.Store.Relational.Address
Trusted boundary: none
Main exports: BindFault, BindFault.message, checkBind
-/
import WorkflowEngine.Store.Relational.Address

/-!
# Listening

A service listens on an address of the machine itself.
-/

namespace WorkflowEngine

/-- Why a service cannot listen. -/
inductive BindFault where
  | noAddress
  | noPort
  /-- The name of a host is not known. -/
  | unknownHost
  /-- The address is not one to listen on. -/
  | forbidden
  deriving DecidableEq, Repr

/-- The wording of a fault. -/
def BindFault.message : BindFault → String
  | .noAddress => "invalid socket address"
  | .noPort => "invalid port value"
  | .unknownHost => "failed to lookup address information: Name or service not known"
  | .forbidden => "Permission denied (os error 13)"

/-- Whether an address belongs to the machine itself: any of it, or one that leads back. -/
def Address.isOwn : Address → Bool
  | .ipv4 a => a.octet 0 = 127 || a.bits.val = 0
  | .ipv6 a => a.bits.val ≤ 1

/-- The text before the last colon, and the text after it. -/
def splitPort? (s : String) : Option (String × String) :=
  let port := (s.toList.reverse.takeWhile (· ≠ ':')).reverse
  let host := s.toList.take (s.toList.length - port.length - 1)
  if s.toList.contains ':' then some (String.ofList host, String.ofList port) else none

/-- The host without the brackets around it. -/
def unbracketed (host : String) : String :=
  match host.toList with
  | '[' :: rest => if rest.getLast? = some ']' then String.ofList rest.dropLast else host
  | _ => host

/-- Checks whether a service can listen on a host and a port. -/
def checkBind (s : String) : Except BindFault Unit :=
  match splitPort? s with
  | none => .error .noAddress
  | some (host, port) =>
      if !(readNatural (Nat.pow 2 16) port).toBool then .error .noPort
      else match Address.read? (unbracketed host) with
        | some address => if address.isOwn then .ok () else .error .forbidden
        | none => if host = "localhost" then .ok () else .error .unknownHost

end WorkflowEngine
