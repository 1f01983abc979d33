/-
Module: WorkflowEngine.Network.Name.Punycode
Layer: Network
Purpose: Names in other scripts as names of letters and digits.
Imports: none
Trusted boundary: none
Main exports: Punycode.encode, Punycode.decode?
-/

/-!
# Punycode

A label is written as its ASCII characters, a hyphen, and one number for each of the others that says where it
goes and by how much it is above the one before.  Numbers have digits of varying weight, so that they need no
separators; the weights adapt to the size of the numbers.
-/

namespace WorkflowEngine.Punycode

/-- The number of digits. -/
def base : Nat := 36

/-- The weight bound for the digit at a position, which lies between 1 and 26. -/
def threshold (position bias : Nat) : Nat :=
  let k := base * (position + 1)
  if k ≤ bias then 1 else min 26 (max 1 (k - bias))

/-- Halves a difference until it is small, counting the steps. -/
def settle : (fuel : Nat) → (delta steps : Nat) → Nat
  | 0, _, steps => steps
  | fuel + 1, delta, steps =>
      if 455 < delta then settle fuel (delta / 35) (steps + base) else steps + 36 * delta / (delta + 38)

/-- The bias after a number, given how many characters there are now. -/
def adapt (delta count : Nat) (first : Bool) : Nat :=
  let scaled := if first then delta / 700 else delta / 2
  settle 64 (scaled + scaled / count) 0

/-- The character of a digit. -/
def digitChar (d : Nat) : Char := Char.ofNat (if d < 26 then d + 97 else d + 22)

/-- The value of a digit. -/
def digitOf? (c : Char) : Option Nat :=
  if 'a' ≤ c ∧ c ≤ 'z' then some (c.toNat - 97)
  else if 'A' ≤ c ∧ c ≤ 'Z' then some (c.toNat - 65)
  else if c.isDigit then some (c.toNat - 22)
  else none

/-! ## Encoding -/

/-- The digits of a number. -/
def numberDigits (bias : Nat) : (fuel position n : Nat) → List Char
  | 0, _, _ => []
  | fuel + 1, position, n =>
      let t := threshold position bias
      if n < t then [digitChar n]
      else digitChar (t + (n - t) % (base - t)) :: numberDigits bias fuel (position + 1) ((n - t) / (base - t))

/-- What has been written, and the state of the encoder: the difference so far, the bias, and the number of
characters written. -/
structure Encoder where
  out : List Char
  delta : Nat
  bias : Nat
  handled : Nat

/-- Passes one character of the label while all characters `n` are being written. -/
def passCharacter (n basic : Nat) (e : Encoder) (c : Char) : Encoder :=
  if c.toNat < n then { e with delta := e.delta + 1 }
  else if c.toNat = n then
    { out := e.out ++ numberDigits e.bias 64 0 e.delta
      delta := 0
      bias := adapt e.delta (e.handled + 1) (e.handled == basic)
      handled := e.handled + 1 }
  else e

/-- Writes the characters from `n` on, in order of code point. -/
def encodeFrom (label : List Char) (basic : Nat) : (fuel : Nat) → (n : Nat) → Encoder → List Char
  | 0, _, e => e.out
  | fuel + 1, n, e =>
      match ((label.map Char.toNat).filter (n ≤ ·)).min? with
      | none => e.out
      | some m =>
          let e := { e with delta := e.delta + (m - n) * (e.handled + 1) }
          let e := label.foldl (passCharacter m basic) e
          encodeFrom label basic fuel (m + 1) { e with delta := e.delta + 1 }

/-- The encoded label. -/
def encode (label : List Char) : List Char :=
  let ascii := label.filter fun c => c.toNat < 128
  let start := if ascii.isEmpty then [] else ascii ++ ['-']
  encodeFrom label ascii.length (label.length + 1) 128 ⟨start, 0, 72, ascii.length⟩

/-! ## Decoding -/

/-- Reads a number: its value, and the text after it. -/
def readNumber? (bias : Nat) : (position weight value : Nat) → List Char → Option (Nat × List Char)
  | _, _, _, [] => none
  | position, weight, value, c :: rest => do
      let d ← digitOf? c
      let value := value + d * weight
      if Nat.pow 2 32 ≤ value then none
      else
        let t := threshold position bias
        if d < t then some (value, rest)
        else if Nat.pow 2 32 ≤ weight * (base - t) then none
        else readNumber? bias (position + 1) (weight * (base - t)) value rest

/-- Inserts the characters that numbers say.  `n` is the last code point and `i` the last position. -/
def decodeFrom? : (fuel : Nat) → (out : List Char) → (n i bias : Nat) → List Char → Option (List Char)
  | _, out, _, _, _, [] => some out
  | 0, _, _, _, _, _ => none
  | fuel + 1, out, n, i, bias, cs => do
      let (delta, rest) ← readNumber? bias 0 1 0 cs
      let count := out.length + 1
      let position := i + delta
      let code := n + position / count
      if code.isValidChar then
        let place := position % count
        decodeFrom? fuel (out.take place ++ Char.ofNat code :: out.drop place) code (place + 1)
          (adapt delta count (i == 0)) rest
      else none

/-- The decoded label.  The last hyphen ends the ASCII characters, of which there is at least one then. -/
def decode? (cs : List Char) : Option (List Char) :=
  let tail := (cs.reverse.takeWhile (· ≠ '-')).reverse
  let start := cs.take (cs.length - tail.length - 1)
  if start.isEmpty && tail.length < cs.length then none
  else if start.all fun c => c.toNat < 128 then decodeFrom? (tail.length + 1) start 128 0 72 tail
  else none

end WorkflowEngine.Punycode
