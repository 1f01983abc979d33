/-
Module: WorkflowEngine.Network.Screening
Layer: Network
Purpose: Which hosts the outside world may make this program call.
Imports: WorkflowEngine.Network.Url.Reader, WorkflowEngine.Text.Blank
Trusted boundary: none
Main exports: Rejection, checkUrl, resolveChecked, Host.isBlocked, Ipv4.isBlocked, Ipv6.isBlocked
-/
import WorkflowEngine.Network.Url.Reader
import WorkflowEngine.Text.Blank

/-!
# Screening of addresses

A URL that comes from a workflow may only lead to a public host of the web.  Addresses are screened by value:
loopback, private, link-local, unique-local and unspecified ones are refused, whatever their spelling.  Names
are screened by their text, since some public names resolve to the address that they start with; they are
screened again by value when they are looked up.
-/

namespace WorkflowEngine

/-- Why a URL is refused. -/
inductive Rejection where
  | malformed
  | scheme (scheme : String)
  | missingHost
  | blockedHost (host : String)
  | unresolvable (host : String)
  deriving DecidableEq, Repr

/-- The wording of a refusal. -/
def Rejection.message : Rejection → String
  | .malformed => "URL could not be parsed"
  | .scheme s => "scheme '" ++ s ++ "' is not allowed"
  | .missingHost => "URL has no host"
  | .blockedHost h => "host '" ++ h ++ "' resolves to a blocked network"
  | .unresolvable h => "host '" ++ h ++ "' could not be resolved"

/-- Whether an address belongs to a loopback, private, link-local or unspecified network. -/
def Ipv4.isBlocked (a : Ipv4) : Bool :=
  let first := a.octet 0
  let second := a.octet 1
  first = 0 || first = 10 || first = 127 || (first = 169 && second = 254)
    || (first = 172 && 16 ≤ second && second ≤ 31) || (first = 192 && second = 168)

/-- Whether an address belongs to a loopback, unique-local, link-local or unspecified network, or stands for
an IPv4 address that is blocked. -/
def Ipv6.isBlocked (a : Ipv6) : Bool :=
  match a.mapped? with
  | some v4 => v4.isBlocked
  | none => a.bits.val ≤ 1 || a.group 0 / 0x200 = 0xFC00 / 0x200 || a.group 0 / 0x40 = 0xFE80 / 0x40

/-- Text that the name of a blocked host starts with. -/
def blockedStarts : List String := ["127.", "10.", "192.168.", "169.254.", "0.", "fe80:", "fc00:"]

/-- Whether a name starts with 172 and a number from 16 to 31. -/
def startsPrivate (cs : List Char) : Bool :=
  cs.take 4 = "172.".toList &&
    match readNatural? 256 ((cs.drop 4).takeWhile (· ≠ '.')) with
    | some n => 16 ≤ n && n ≤ 31
    | none => false

/-- Whether a name ends in a text. -/
def endsWith (cs : List Char) (ending : String) : Bool := ending.toList.isSuffixOf cs

/-- Whether a name is one of a local host or network, or looks like a blocked address; letter case and dots
at the end make no difference. -/
def isBlockedName (name : String) : Bool :=
  let cs := ((name.toList.reverse.dropWhile (· = '.')).reverse).map Char.toLower
  match Ipv4.readDotted? cs, Ipv6.read? cs with
  | some a, _ => a.isBlocked
  | none, some a => a.isBlocked
  | none, none =>
      cs = "localhost".toList || endsWith cs ".localhost" || endsWith cs ".local"
        || endsWith cs ".internal" || blockedStarts.any (·.toList.isPrefixOf cs) || startsPrivate cs

/-- Whether a host is blocked. -/
def Host.isBlocked : Host → Bool
  | .name s => isBlockedName s
  | .ipv4 a => a.isBlocked
  | .ipv6 a => a.isBlocked

/-- Reads a URL and refuses it unless it is one of the web that leads to a host that is not blocked. -/
def checkUrl (raw : String) : Except Rejection Url :=
  match Url.read (trimmed raw) with
  | .error _ => .error .malformed
  | .ok u =>
      if u.scheme ≠ "http" ∧ u.scheme ≠ "https" then .error (.scheme u.scheme)
      else match u.host with
        | none => .error .missingHost
        | some h => if h.isBlocked then .error (.blockedHost h.render) else .ok u

/-! ## Resolution -/

/-- An address of either kind. -/
inductive Address where
  | ipv4 (address : Ipv4)
  | ipv6 (address : Ipv6)
  deriving DecidableEq, Repr

/-- Whether an address is blocked. -/
def Address.isBlocked : Address → Bool
  | .ipv4 a => a.isBlocked
  | .ipv6 a => a.isBlocked

/-- An address and a port. -/
structure Endpoint where
  address : Address
  port : Nat
  deriving DecidableEq, Repr

/-- The text of an endpoint. -/
def Endpoint.render (e : Endpoint) : String :=
  (match e.address with
    | .ipv4 a => a.render
    | .ipv6 a => "[" ++ a.renderMapped ++ "]") ++ ":" ++ toString e.port

/-- The address that a text spells in its plain form. -/
def Address.read? (s : String) : Option Address :=
  ((Ipv4.readDotted? s.toList).map Address.ipv4).or ((Ipv6.read? s.toList).map Address.ipv6)

/-- The endpoints of a URL, refused if any is blocked.  Names that are no addresses are looked up by
`lookup`. -/
def resolveChecked (lookup : String → List Address) (u : Url) : Except Rejection (List Endpoint) :=
  match u.host with
  | none => .error .missingHost
  | some h =>
      let addresses : List Address := match h with
        | .ipv4 a => [.ipv4 a]
        | .ipv6 a => [.ipv6 a]
        | .name s => (Address.read? s).elim (lookup s) ([·])
      if addresses.isEmpty then .error (.unresolvable h.render)
      else if addresses.any Address.isBlocked then .error (.blockedHost h.render)
      else .ok (addresses.map fun a => ⟨a, u.port?.getD 443⟩)

end WorkflowEngine
