/-
Module: WorkflowEngine.Network.Ipv4
Layer: Network
Purpose: IPv4 addresses, their text, and the forms in which a host may spell one.
Imports: WorkflowEngine.Number.Decimal, WorkflowEngine.Number.Hexadecimal
Trusted boundary: none
Main exports: Ipv4, Ipv4.render, Ipv4.ofHost?, Ipv4.endsInNumber, Ipv4.readDotted?
-/
import WorkflowEngine.Number.Decimal
import WorkflowEngine.Number.Hexadecimal

/-!
# IPv4 addresses

A host whose last part is a number is an address: one to four numbers, each decimal, octal after `0` or
hexadecimal after `0x`, of which the last fills the bytes that are left.
-/

namespace WorkflowEngine

/-- A 32-bit address. -/
structure Ipv4 where
  bits : Fin (Nat.pow 2 32)
  deriving DecidableEq, Repr

namespace Ipv4

/-- The byte at a position, from the left. -/
def octet (a : Ipv4) (position : Nat) : Nat := a.bits.val / Nat.pow 256 (3 - position) % 256

/-- The four bytes. -/
def octets (a : Ipv4) : List Nat := [a.octet 0, a.octet 1, a.octet 2, a.octet 3]

/-- The text of an address: four decimal numbers with dots between. -/
def render (a : Ipv4) : String := ".".intercalate (a.octets.map toString)

/-- The address with the low 32 bits of a number. -/
def ofNat (n : Nat) : Ipv4 := ⟨⟨n % Nat.pow 2 32, Nat.mod_lt _ (by decide)⟩⟩

/-- The digits of a number in some base, if all are. -/
def readDigits? (base : Nat) (cs : List Char) : Option Nat :=
  if cs.all fun c => isHexDigit c && hexValue c < base then
    some (cs.foldl (fun n c => base * n + hexValue c) 0)
  else none

/-- Reads a part: decimal, octal after `0`, hexadecimal after `0x`.  A bare `0x` is zero. -/
def readPart? (cs : List Char) : Option Nat :=
  match cs with
  | [] => none
  | '0' :: 'x' :: digits | '0' :: 'X' :: digits => readDigits? 16 digits
  | '0' :: d :: digits => readDigits? 8 (d :: digits)
  | _ => readDigits? 10 cs

/-- The parts between dots; an empty part at the end does not count. -/
def parts (cs : List Char) : List (List Char) :=
  let all := cs.splitOn '.'
  if all.getLast? = some [] then all.dropLast else all

/-- Whether the last part of a host is a number, so that the host must be an address. -/
def endsInNumber (cs : List Char) : Bool :=
  match (parts cs).getLast? with
  | none => false
  | some last => (!last.isEmpty && last.all Char.isDigit) || (readPart? last).isSome

/-- The address that numbers spell: all but the last are bytes from the left, the last fills the rest. -/
def ofNumbers? (numbers : List Nat) : Option Ipv4 :=
  match numbers.reverse with
  | [] => none
  | last :: before =>
      if 3 < before.length ∨ Nat.pow 256 (4 - before.length) ≤ last ∨ before.any (255 < ·) then none
      else
        let high := numbers.dropLast.zipIdx.map fun (n, i) => n * Nat.pow 256 (3 - i)
        some (ofNat (high.foldl (· + ·) last))

/-- Reads a host whose last part is a number. -/
def ofHost? (cs : List Char) : Option Ipv4 := ((parts cs).mapM readPart?).bind ofNumbers?

/-- Reads one byte in plain decimal, without zeros in front. -/
def readOctet? (cs : List Char) : Option Nat :=
  if 1 ≤ cs.length ∧ cs.length ≤ 3 ∧ cs.all Char.isDigit ∧ (cs.length = 1 ∨ cs.head? ≠ some '0') then
    let n := naturalOfDigits cs
    if n < 256 then some n else none
  else none

/-- Reads the plain form only: four decimal numbers with dots between. -/
def readDotted? (cs : List Char) : Option Ipv4 :=
  match (cs.splitOn '.').mapM readOctet? with
  | some [a, b, c, d] => some (ofNat (a * Nat.pow 256 3 + b * Nat.pow 256 2 + c * 256 + d))
  | _ => none

end Ipv4

end WorkflowEngine
