/-
Module: WorkflowEngine.Network.Ipv6
Layer: Network
Purpose: IPv6 addresses and their text.
Imports: WorkflowEngine.Network.Ipv4
Trusted boundary: none
Main exports: Ipv6, Ipv6.read?, Ipv6.render, Ipv6.mapped?
-/
import WorkflowEngine.Network.Ipv4

/-!
# IPv6 addresses

An address is eight groups of 16 bits.  In its text, one run of groups that are zero may be left out between
two colons, and the last two groups may be written as an IPv4 address.
-/

namespace WorkflowEngine

/-- A 128-bit address. -/
structure Ipv6 where
  bits : Fin (Nat.pow 2 128)
  deriving DecidableEq, Repr

namespace Ipv6

/-- The group at a position, from the left. -/
def group (a : Ipv6) (position : Nat) : Nat := a.bits.val / Nat.pow 65536 (7 - position) % 65536

/-- The eight groups. -/
def groups (a : Ipv6) : List Nat := (List.range 8).map a.group

/-- The address with the low 128 bits of a number. -/
def ofNat (n : Nat) : Ipv6 := ⟨⟨n % Nat.pow 2 128, Nat.mod_lt _ (by decide)⟩⟩

/-- The address with the given groups. -/
def ofGroups (groups : List Nat) : Ipv6 := ofNat (groups.foldl (fun n g => n * 65536 + g) 0)

/-- The IPv4 address that an address stands for. -/
def mapped? (a : Ipv6) : Option Ipv4 :=
  if a.bits.val / Nat.pow 2 32 = 0xFFFF then some (.ofNat a.bits.val) else none

/-! ## Reading -/

/-- Reads a group of one to four digits. -/
def readGroup? (cs : List Char) : Option Nat :=
  if 1 ≤ cs.length ∧ cs.length ≤ 4 ∧ cs.all isHexDigit then some (ofHexDigits cs) else none

/-- Reads groups between colons; the last part may be an IPv4 address if `dotted` allows it. -/
def readParts? (dotted : Bool) : List (List Char) → Option (List Nat)
  | [] => some []
  | [last] =>
      if dotted && last.contains '.' then
        (Ipv4.readDotted? last).map fun a => [a.bits.val / 65536, a.bits.val % 65536]
      else (readGroup? last).map ([·])
  | part :: rest => do
      let g ← readGroup? part
      let more ← readParts? dotted rest
      some (g :: more)

/-- Reads the groups on one side of the gap; there may be none. -/
def readSide? (dotted : Bool) (cs : List Char) : Option (List Nat) :=
  if cs.isEmpty then some [] else readParts? dotted (cs.splitOn ':')

/-- Splits a text at the first two colons in a row. -/
def splitGap? : List Char → Option (List Char × List Char)
  | ':' :: ':' :: rest => some ([], rest)
  | c :: rest => (splitGap? rest).map fun (left, right) => (c :: left, right)
  | [] => none

/-- Reads an address.  A gap stands for at least one group. -/
def read? (cs : List Char) : Option Ipv6 :=
  match splitGap? cs with
  | none => do
      let groups ← readSide? true cs
      if groups.length = 8 then some (ofGroups groups) else none
  | some (left, right) => do
      let high ← readSide? false left
      let low ← readSide? true right
      if high.length + low.length < 8 then
        some (ofGroups (high ++ List.replicate (8 - high.length - low.length) 0 ++ low))
      else none

/-! ## Writing -/

/-- The digits of a group, without zeros in front. -/
def groupText (g : Nat) : List Char := Nat.toDigits 16 g

/-- How many zeros a list starts with. -/
def leadingZeros (groups : List Nat) : Nat := (groups.takeWhile (· = 0)).length

/-- The first longest run of two or more zero groups, as its position and length. -/
def longestGap? (groups : List Nat) : Option (Nat × Nat) :=
  let runs := (List.range 8).map fun i => (i, leadingZeros (groups.drop i))
  let best := runs.foldl (fun (best : Nat × Nat) run => if best.2 < run.2 then run else best) (0, 0)
  if 2 ≤ best.2 then some best else none

/-- Groups with colons between. -/
def join (groups : List Nat) : List Char := [':'].intercalate (groups.map groupText)

/-- The text of an address, its longest run of zero groups left out. -/
def render (a : Ipv6) : String :=
  String.ofList <| match longestGap? a.groups with
    | none => join a.groups
    | some (start, length) =>
        join (a.groups.take start) ++ [':', ':'] ++ join (a.groups.drop (start + length))

/-- The text of an address in which one that stands for an IPv4 address ends in that. -/
def renderMapped (a : Ipv6) : String :=
  match a.mapped? with
  | some v4 => "::ffff:" ++ v4.render
  | none => a.render

example : (read? "1:0:0:2::3".toList).map render = some "1:0:0:2::3" := by decide +kernel

example : (read? "::FFFF:1.2.3.4".toList).map renderMapped = some "::ffff:1.2.3.4" := by decide +kernel

end Ipv6

end WorkflowEngine
