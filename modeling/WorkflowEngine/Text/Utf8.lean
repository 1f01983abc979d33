/-
Module: WorkflowEngine.Text.Utf8
Layer: Text
Purpose: Characters as bytes and back.
Imports: none
Trusted boundary: none
Main exports: utf8Bytes, octets, Utf8.Piece, Utf8.pieces, ofUtf8?, Utf8.lossy, Utf8.complaint?
-/

/-!
# UTF-8

A byte is a number below 256.  Only the shortest form of a character is accepted.  Bytes are read into pieces: a
character, or as many bytes as begin a character that the next byte does not continue.
-/

namespace WorkflowEngine

/-- The bytes of a character. -/
def utf8Bytes (c : Char) : List Nat := (String.utf8EncodeChar c).map UInt8.toNat

/-- The bytes of a text. -/
def octets (text : String) : List UInt8 := text.toList.flatMap String.utf8EncodeChar

namespace Utf8

/-- What bytes encode, from left to right. -/
inductive Piece where
  | char (c : Char)
  /-- A number of bytes that are no character. -/
  | broken (bytes : Nat)
  /-- A number of bytes that begin a character, at the end. -/
  | unfinished (bytes : Nat)
  deriving DecidableEq, Repr

/-- How many bytes follow a first byte, and what it contributes. -/
def lead? (byte : Nat) : Option (Nat × Nat) :=
  if byte < 0x80 then some (0, byte)
  else if 0xC2 ≤ byte ∧ byte < 0xE0 then some (1, byte - 0xC0)
  else if 0xE0 ≤ byte ∧ byte < 0xF0 then some (2, byte - 0xE0)
  else if 0xF0 ≤ byte ∧ byte < 0xF5 then some (3, byte - 0xF0)
  else none

/-- A character that was begun: the bytes so far, the bytes to come, and the bits so far. -/
structure Begun where
  seen : Nat
  missing : Nat
  value : Nat

/-- Starts with a first byte. -/
def start (byte : Nat) : List Piece × Option Begun :=
  match lead? byte with
  | none => ([.broken 1], none)
  | some (0, n) => ([.char (Char.ofNat n)], none)
  | some (missing, value) => ([], some ⟨1, missing, value⟩)

/-- Whether some character goes on with the bits of `b` and `low`.  Only the second byte decides. -/
def Begun.goesOn (b : Begun) (low : Nat) : Bool :=
  let n := b.value * 64 + low
  match b.seen, b.missing with
  | 1, 2 => 0x20 ≤ n && !(0x360 ≤ n && n < 0x380)
  | 1, 3 => 0x10 ≤ n && n < 0x110
  | _, _ => true

/-- Goes on with a byte. -/
def step (begun : Option Begun) (byte : Nat) : List Piece × Option Begun :=
  match begun with
  | none => start byte
  | some b =>
      if byte / 64 = 2 && b.goesOn (byte % 64) then
        let n := b.value * 64 + byte % 64
        if b.missing = 1 then ([.char (Char.ofNat n)], none) else ([], some ⟨b.seen + 1, b.missing - 1, n⟩)
      else
        let (pieces, next) := start byte
        (.broken b.seen :: pieces, next)

/-- Reads bytes after what was begun. -/
def piecesFrom : Option Begun → List Nat → List Piece
  | begun, byte :: rest =>
      let (pieces, next) := step begun byte
      pieces ++ piecesFrom next rest
  | some b, [] => [.unfinished b.seen]
  | none, [] => []

/-- Reads bytes. -/
def pieces (bytes : List Nat) : List Piece := piecesFrom none bytes

/-- The character of a piece. -/
def Piece.char? : Piece → Option Char
  | .char c => some c
  | _ => none

/-- Text for any bytes: what is no character is replaced. -/
def lossy (bytes : List Nat) : List Char := (pieces bytes).map fun p => p.char?.getD '\uFFFD'

/-- What is wrong with pieces that come after `index` bytes. -/
def complaintFrom? : (index : Nat) → List Piece → Option String
  | index, .char c :: rest => complaintFrom? (index + (utf8Bytes c).length) rest
  | index, .broken n :: _ =>
      some ("invalid utf-8 sequence of " ++ toString n ++ " bytes from index " ++ toString index)
  | index, .unfinished _ :: _ => some ("incomplete utf-8 byte sequence from index " ++ toString index)
  | _, [] => none

/-- What is wrong with bytes that are no text. -/
def complaint? (bytes : List Nat) : Option String := complaintFrom? 0 (pieces bytes)

end Utf8

/-- The text that bytes encode. -/
def ofUtf8? (bytes : List Nat) : Option (List Char) := (Utf8.pieces bytes).mapM Utf8.Piece.char?

example : ofUtf8? [0x61, 0xC3, 0xA9, 0xF0, 0x9F, 0x98, 0x80] = some "aé😀".toList := by decide

example : ofUtf8? [0xED, 0xA0, 0x80] = none := by decide

end WorkflowEngine
