/-
Module: WorkflowEngine.Network.Url.Fault
Layer: Network
Purpose: Why a text is no URL.
Imports: none
Trusted boundary: none
Main exports: Url.Fault, Url.Fault.message
-/

/-!
# Faults of URLs
-/

namespace WorkflowEngine.Url

/-- Why a text is no URL. -/
inductive Fault where
  | emptyHost
  | internationalName
  | port
  | ipv4Address
  | ipv6Address
  | domainCharacter
  | noScheme
  deriving DecidableEq, Repr

/-- The wording of a fault. -/
def Fault.message : Fault → String
  | .emptyHost => "empty host"
  | .internationalName => "invalid international domain name"
  | .port => "invalid port number"
  | .ipv4Address => "invalid IPv4 address"
  | .ipv6Address => "invalid IPv6 address"
  | .domainCharacter => "invalid domain character"
  | .noScheme => "relative URL without a base"

end WorkflowEngine.Url
