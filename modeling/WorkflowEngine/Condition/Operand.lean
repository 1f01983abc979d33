/-
Module: WorkflowEngine.Condition.Operand
Layer: Condition
Purpose: The values that a condition compares, their conversion to numbers, and both equalities.
Imports: WorkflowEngine.Json.Value, WorkflowEngine.Number.Decimal, WorkflowEngine.Number.Hexadecimal,
  WorkflowEngine.Text.Blank
Trusted boundary: none
Main exports: Operand, Operand.toNumber, Operand.strictEq, Operand.looseEq, Operand.ofLiteral
-/
import WorkflowEngine.Json.Value
import WorkflowEngine.Number.Decimal
import WorkflowEngine.Number.Hexadecimal
import WorkflowEngine.Text.Blank

/-!
# Operands

An operand is a JSON value seen by a comparison: numbers are doubles, lists and objects cannot be compared,
and a path that leads nowhere is *undefined*.
-/

namespace WorkflowEngine

/-- A value on either side of a comparison. -/
inductive Operand where
  /-- A path that leads nowhere, or the word `undefined`. -/
  | undefined
  | null
  | bool (value : Bool)
  | number (value : Binary64)
  | text (value : String)
  /-- A list or an object. -/
  | composite (value : Json)
  deriving DecidableEq, Repr

namespace Operand

/-- A JSON value as an operand. -/
def ofJson : Json → Operand
  | .null => .null
  | .bool b => .bool b
  | .number n => .number n.toBinary64
  | .text s => .text s
  | v => .composite v

/-! ## Conversion to numbers -/

/-- Reads hexadecimal digits, after an optional plus sign, into a number below `2 ^ 64`. -/
def readHexadecimal? (cs : List Char) : Option Nat :=
  let digits := match cs with
    | '+' :: rest => rest
    | _ => cs
  if !digits.isEmpty && digits.all isHexDigit then
    let n := ofHexDigits digits
    if n < Nat.pow 2 64 then some n else none
  else none

/-- The characters of a decimal literal. -/
def isDecimalChar (c : Char) : Bool :=
  c.isDigit || c = '.' || c = 'e' || c = 'E' || c = '+' || c = '-'

/-- The number that a text spells: nothing but white space is zero; `Infinity` may carry a sign; `0x` starts
hexadecimal digits; all else is a decimal literal or not a number. -/
def numberOfText (cs : List Char) : Binary64 :=
  match trim cs with
  | [] => .zero
  | t =>
      if t = "Infinity".toList ∨ t = "+Infinity".toList then .infinite false
      else if t = "-Infinity".toList then .infinite true
      else if t.take 2 = ['0', 'x'] ∨ t.take 2 = ['0', 'X'] then
        ((readHexadecimal? (t.drop 2)).map Binary64.ofNat).getD .nan
      else if t.all isDecimalChar then ((Decimal.read? t).map Decimal.toBinary64).getD .nan
      else .nan

/-- One for true and zero for false. -/
def numberOfBool (b : Bool) : Binary64 := .ofNat b.toNat

/-- The number that an operand counts as in an ordering. -/
def toNumber : Operand → Binary64
  | .undefined => .nan
  | .null => .zero
  | .bool b => numberOfBool b
  | .number x => x
  | .text s => numberOfText s.toList
  | .composite _ => .nan

/-! ## Equality -/

/-- Equality without conversion.  Composite operands equal nothing. -/
def strictEq : Operand → Operand → Bool
  | .undefined, .undefined => true
  | .null, .null => true
  | .bool a, .bool b => a == b
  | .number a, .number b => a.eq b
  | .text a, .text b => a == b
  | _, _ => false

/-- A boolean as the number it counts as; other operands are left alone. -/
def boolAsNumber : Operand → Operand
  | .bool b => .number (numberOfBool b)
  | x => x

/-- Equality after conversion: a boolean counts as a number, and a text compared with a number is converted.
Undefined and null equal only themselves. -/
def looseEq (a b : Operand) : Bool :=
  match a.boolAsNumber, b.boolAsNumber with
  | .number x, .text s => x.eq (numberOfText s.toList)
  | .text s, .number y => (numberOfText s.toList).eq y
  | x, y => x.strictEq y

/-! ## Literals -/

/-- What stands between a pair of equal quotes that make up the ends of a text. -/
def unquote? (cs : List Char) : Option (List Char) :=
  match cs with
  | q :: rest => if (q = '\'' ∨ q = '"') ∧ rest.getLast? = some q then some rest.dropLast else none
  | [] => none

/-- Reads a literal: a word for a value, a quoted text, a number, or else the text itself. -/
def ofLiteral (cs : List Char) : Operand :=
  if cs = "true".toList then .bool true
  else if cs = "false".toList then .bool false
  else if cs = "null".toList then .null
  else if cs = "undefined".toList then .undefined
  else match unquote? cs with
    | some inner => .text (String.ofList inner)
    | none =>
        match numberOfText cs with
        | .nan => .text (String.ofList cs)
        | x => .number x

/-! ## Small lemmas -/

theorem strictEq_comm (a b : Operand) : a.strictEq b = b.strictEq a := by
  cases a <;> cases b
  case number.number x y => exact Binary64.eq_symm x y
  case bool.bool => exact Bool.beq_comm
  case text.text => exact Bool.beq_comm
  all_goals rfl

end Operand

end WorkflowEngine
