/-
Module: WorkflowEngine.Number.Hexadecimal
Layer: Number
Purpose: Hexadecimal digits.
Imports: none
Trusted boundary: none
Main exports: isHexDigit, hexValue, ofHexDigits, lowerHex, upperHex
-/

/-!
# Hexadecimal digits

Digits are read in either letter case.  Identifiers and escapes of text are written in lower case, escapes of
addresses in upper case.
-/

namespace WorkflowEngine

/-- Hexadecimal digits in either letter case. -/
def isHexDigit (c : Char) : Bool :=
  c.isDigit || ('a' ≤ c && c ≤ 'f') || ('A' ≤ c && c ≤ 'F')

/-- The value of a hexadecimal digit. -/
def hexValue (c : Char) : Nat :=
  if c.isDigit then c.toNat - 48
  else if 'a' ≤ c then c.toNat - 87
  else c.toNat - 55

/-- The number that hexadecimal digits spell. -/
def ofHexDigits (digits : List Char) : Nat :=
  digits.foldl (fun n c => 16 * n + hexValue c) 0

/-- The lower-case digit for the last four bits of a number. -/
def lowerHex (n : Nat) : Char := Nat.digitChar (n % 16)

/-- The upper-case digit for the last four bits of a number. -/
def upperHex (n : Nat) : Char := (Nat.digitChar (n % 16)).toUpper

end WorkflowEngine
