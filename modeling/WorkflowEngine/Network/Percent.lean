/-
Module: WorkflowEngine.Network.Percent
Layer: Network
Purpose: Percent-encoding of text, and its reversal.
Imports: WorkflowEngine.Number.Hexadecimal, WorkflowEngine.Text.Utf8
Trusted boundary: none
Main exports: Percent.encode, Percent.decode?, Percent.keptInFragment, Percent.keptInQuery, Percent.keptInPath,
  Percent.keptInUser
-/
import WorkflowEngine.Number.Hexadecimal
import WorkflowEngine.Text.Utf8

/-!
# Percent-encoding

Each part of a URL has its own set of characters that stand as they are; every other character is written as
its bytes, each a percent sign and two digits.
-/

namespace WorkflowEngine.Percent

/-- Visible characters of ASCII, and the blank. -/
def isPlain (c : Char) : Bool := 0x20 ≤ c.toNat && c.toNat < 0x7F

/-- What stands in a fragment as it is. -/
def keptInFragment (c : Char) : Bool := isPlain c && !" \"<>`".toList.contains c

/-- What stands in a query as it is. -/
def keptInQuery (c : Char) : Bool := isPlain c && !" \"#<>".toList.contains c

/-- What stands in the query of a web address as it is. -/
def keptInSpecialQuery (c : Char) : Bool := keptInQuery c && c ≠ '\''

/-- What stands in a path as it is. -/
def keptInPath (c : Char) : Bool := keptInFragment c && !"#?\x7b\x7d".toList.contains c

/-- What stands in a user name or password as it is. -/
def keptInUser (c : Char) : Bool := keptInPath c && !"/:;=@[\\]^|".toList.contains c

/-- One byte as a percent sign and two digits. -/
def escapeByte (byte : Nat) : List Char := ['%', upperHex (byte / 16), upperHex byte]

/-- Writes every character that is not kept as its bytes. -/
def encode (kept : Char → Bool) (cs : List Char) : List Char :=
  cs.flatMap fun c => if kept c then [c] else (utf8Bytes c).flatMap escapeByte

/-- The bytes of a text in which percent signs before two digits stand for one byte. -/
def bytes : List Char → List Nat
  | '%' :: a :: b :: rest =>
      if isHexDigit a && isHexDigit b then (hexValue a * 16 + hexValue b) :: bytes rest
      else 0x25 :: bytes (a :: b :: rest)
  | c :: rest => utf8Bytes c ++ bytes rest
  | [] => []

/-- Reverses percent-encoding; none if the bytes are no text. -/
def decode? (cs : List Char) : Option (List Char) :=
  if cs.contains '%' then ofUtf8? (bytes cs) else some cs

end WorkflowEngine.Percent
