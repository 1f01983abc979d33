/-
Module: WorkflowEngine.Network.Url.Basic
Layer: Network
Purpose: URLs and their text.
Imports: WorkflowEngine.Network.Ipv6
Trusted boundary: none
Main exports: Host, Url, Url.render, Url.defaultPort?, Url.port?
-/
import WorkflowEngine.Network.Ipv6

/-!
# URLs

A URL is held in parts that are already encoded, so that its text is their concatenation.  The port is left
out where it is the one that the scheme implies.
-/

namespace WorkflowEngine

/-- The host of a URL. -/
inductive Host where
  | name (text : String)
  | ipv4 (address : Ipv4)
  | ipv6 (address : Ipv6)
  deriving DecidableEq, Repr

/-- The text of a host. -/
def Host.render : Host → String
  | .name s => s
  | .ipv4 a => a.render
  | .ipv6 a => "[" ++ a.render ++ "]"

/-- The path of a URL: segments, or a text that has no structure. -/
inductive UrlPath where
  | segments (segments : List String)
  | opaqueText (text : String)
  deriving DecidableEq, Repr

/-- The text of a path. -/
def UrlPath.render : UrlPath → String
  | .segments all => String.join (all.map ("/" ++ ·))
  | .opaqueText s => s

/-- A URL. -/
structure Url where
  scheme : String
  username : String
  password : String
  host : Option Host
  port : Option Nat
  path : UrlPath
  query : Option String
  fragment : Option String
  deriving DecidableEq, Repr

namespace Url

/-- The port that a scheme implies. -/
def defaultPort? (scheme : String) : Option Nat :=
  match scheme with
  | "http" | "ws" => some 80
  | "https" | "wss" => some 443
  | "ftp" => some 21
  | _ => none

/-- The port to connect to. -/
def port? (u : Url) : Option Nat := u.port.or (defaultPort? u.scheme)

/-- The text of the user name and the password. -/
def userinfo (u : Url) : String :=
  if u.username.isEmpty && u.password.isEmpty then ""
  else u.username ++ (if u.password.isEmpty then "" else ":" ++ u.password) ++ "@"

/-- The text between the scheme and the path. -/
def authority (u : Url) : String :=
  match u.host with
  | some h => "//" ++ u.userinfo ++ h.render ++ (u.port.elim "" fun p => ":" ++ toString p)
  | none => if u.scheme = "file" then "//" else ""

/-- The text of a URL. -/
def render (u : Url) : String :=
  u.scheme ++ ":" ++ u.authority ++ u.path.render ++ (u.query.elim "" ("?" ++ ·))
    ++ (u.fragment.elim "" ("#" ++ ·))

/-- The text of the host. -/
def hostText? (u : Url) : Option String := u.host.map Host.render

end Url

end WorkflowEngine
