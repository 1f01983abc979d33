/-
Module: WorkflowEngine.Uuid
Layer: Identity
Purpose: 128-bit identifiers, their canonical text, and the other spellings that files may use.
Imports: WorkflowEngine.Number.Hexadecimal
Trusted boundary: none
Main exports: Uuid, Uuid.render, Uuid.read?, Uuid.readAny, Uuid.Fault.message
-/
import WorkflowEngine.Number.Hexadecimal

/-!
# Identifiers

An identifier is a 128-bit number.  Its canonical text is 32 lower-case hexadecimal digits in groups of
8, 4, 4, 4 and 12 with hyphens between.  Ids in requests must have that shape, in any letter case; a
workflow file may also write an id without hyphens, in braces, or as a URN.
-/

namespace WorkflowEngine

/-- An identifier. -/
structure Uuid where
  bits : Fin (Nat.pow 2 128)
  deriving DecidableEq, Repr

namespace Uuid

instance : Inhabited Uuid := ⟨⟨0⟩⟩

/-- The identifier whose bits are all zero. -/
def nil : Uuid := ⟨0⟩

theorem mod_size_lt (n : Nat) : n % Nat.pow 2 128 < Nat.pow 2 128 :=
  Nat.mod_lt n (by decide)

/-- The identifier with the low 128 bits of a number. -/
def ofNat (n : Nat) : Uuid := ⟨⟨n % Nat.pow 2 128, mod_size_lt n⟩⟩

/-- The identifier made of the low 122 random bits of a number, marked as such. -/
def random (n : Nat) : Uuid :=
  let low := n % Nat.pow 2 62
  let middle := n / Nat.pow 2 62 % Nat.pow 2 12
  let high := n / Nat.pow 2 74 % Nat.pow 2 48
  .ofNat ((((high * 16 + 4) * Nat.pow 2 12 + middle) * 4 + 2) * Nat.pow 2 62 + low)

/-- The last `width` hexadecimal digits of a number, lower case. -/
def hexDigits : Nat → Nat → List Char
  | 0, _ => []
  | width + 1, n => hexDigits width (n / 16) ++ [lowerHex n]

/-- The lengths of the groups of the canonical text. -/
def groups : List Nat := [8, 4, 4, 4, 12]

/-- Puts hyphens between groups of the given lengths. -/
def hyphenate : List Nat → List Char → List Char
  | n :: m :: rest, cs => cs.take n ++ '-' :: hyphenate (m :: rest) (cs.drop n)
  | _, cs => cs

/-- The digits of groups of the given lengths with hyphens between, if the text has that shape. -/
def ungroup? : List Nat → List Char → Option (List Char)
  | [], cs => if cs.isEmpty then some [] else none
  | [n], cs => if cs.length = n ∧ cs.all isHexDigit then some cs else none
  | n :: rest, cs =>
      match cs.drop n with
      | '-' :: tail =>
          if (cs.take n).all isHexDigit then (ungroup? rest tail).map (cs.take n ++ ·) else none
      | _ => none

/-- The canonical text as characters. -/
def chars (u : Uuid) : List Char := hyphenate groups (hexDigits 32 u.bits.val)

/-- The canonical text. -/
def render (u : Uuid) : String := String.ofList u.chars

instance : ToString Uuid := ⟨render⟩

/-- Reads a text of the canonical shape in any letter case. -/
def ofChars? (cs : List Char) : Option Uuid :=
  (ungroup? groups cs).map fun digits => ofNat (ofHexDigits digits)

/-- Reads a text of the canonical shape in any letter case. -/
def read? (s : String) : Option Uuid := ofChars? s.toList

/-! ## Other spellings -/

/-- Why a text is no spelling of an identifier. -/
inductive Fault where
  | character (found : Char) (index : Nat)
  | length (found : Nat)
  | groupCount (found : Nat)
  | groupLength (group expected found : Nat)
  deriving DecidableEq, Repr

/-- The wording of a fault. -/
def Fault.message : Fault → String
  | .character c i => "invalid character: found `" ++ c.toString ++ "` at " ++ toString i
  | .length n => "invalid length: found " ++ toString n
  | .groupCount n => "invalid group count: expected 5, found " ++ toString n
  | .groupLength g expected n =>
      "invalid group length in group " ++ toString g ++ ": expected " ++ toString expected
        ++ ", found " ++ toString n

/-- What stands between the braces of the braced spelling. -/
def braced? : List Char → Option (List Char)
  | '{' :: rest => if rest.getLast? = some '}' then some rest.dropLast else none
  | _ => none

/-- What follows the URN namespace. -/
def urn? (cs : List Char) : Option (List Char) :=
  let name := "urn:uuid:".toList
  if cs.take 9 = name then some (cs.drop 9) else none

/-- The number of bytes a text takes in UTF-8. -/
def byteCount (cs : List Char) : Nat := (cs.map Char.utf8Size).foldl (· + ·) 0

/-- The first character that is neither a hyphen nor a hexadecimal digit, with its byte position. -/
def strayCharacter? (offset : Nat) : List Char → Option (Char × Nat)
  | [] => none
  | c :: rest =>
      if c = '-' ∨ isHexDigit c then strayCharacter? (offset + c.utf8Size) rest else some (c, offset)

/-- The lengths of the parts between hyphens. -/
def partLengths (cs : List Char) : List Nat := (cs.splitOn '-').map List.length

/-- The first of five groups that has not its length. -/
def wrongGroup? (parts : List Nat) : Option (Nat × Nat × Nat) :=
  ((parts.zip groups).zipIdx.find? fun ((found, expected), _) => found ≠ expected).map
    fun ((found, expected), i) => (i, expected, found)

/-- Finds out what is wrong with a text that is no spelling of an identifier. -/
def diagnose (cs : List Char) : Fault :=
  let (body, offset, plain) := match braced? cs with
    | some inner => (inner, 1, false)
    | none => match urn? cs with
      | some tail => (tail, 9, false)
      | none => (cs, 0, true)
  match strayCharacter? offset body with
  | some (c, i) => .character c i
  | none =>
      let parts := partLengths body
      if parts.length = 1 ∧ plain then .length (byteCount cs)
      else if parts.length ≠ 5 then .groupCount parts.length
      else match wrongGroup? parts with
        | some (g, expected, found) => .groupLength g expected found
        | none => .length (byteCount cs)

/-- Reads any spelling: canonical, without hyphens, in braces, or as a URN. -/
def readAny (cs : List Char) : Except Fault Uuid :=
  let body := ((braced? cs).orElse fun _ => urn? cs).getD cs
  match ofChars? body with
  | some u => .ok u
  | none =>
      if cs.length = 32 ∧ cs.all isHexDigit then .ok (ofNat (ofHexDigits cs))
      else .error (diagnose cs)

end Uuid

end WorkflowEngine
