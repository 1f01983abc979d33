/-
Module: WorkflowEngine.Condition.Comparison
Layer: Condition
Purpose: The eight operators, paths into a context, and the truth of one comparison.
Imports: WorkflowEngine.Condition.Operand
Trusted boundary: none
Main exports: Operator, Operator.holds, Comparison, Comparison.resolve, Comparison.evaluate
-/
import WorkflowEngine.Condition.Operand

/-!
# Comparisons

A comparison relates what a path finds in a context to an operand.
-/

namespace WorkflowEngine

/-- A comparison operator. -/
inductive Operator where
  | strictEq
  | strictNe
  | looseEq
  | looseNe
  | ge
  | le
  | gt
  | lt
  deriving DecidableEq, Repr

namespace Operator

/-- The operators, every one before those that its text starts with. -/
def all : List Operator := [.strictEq, .strictNe, .looseEq, .looseNe, .ge, .le, .gt, .lt]

/-- The text of an operator. -/
def chars : Operator → List Char
  | .strictEq => ['=', '=', '=']
  | .strictNe => ['!', '=', '=']
  | .looseEq => ['=', '=']
  | .looseNe => ['!', '=']
  | .ge => ['>', '=']
  | .le => ['<', '=']
  | .gt => ['>']
  | .lt => ['<']

/-- Whether an operator relates two operands.  Orderings compare numbers, and none holds where one side is
not a number. -/
def holds : Operator → Operand → Operand → Bool
  | .strictEq, a, b => a.strictEq b
  | .strictNe, a, b => !a.strictEq b
  | .looseEq, a, b => a.looseEq b
  | .looseNe, a, b => !a.looseEq b
  | .ge, a, b => b.toNumber.le a.toNumber
  | .le, a, b => a.toNumber.le b.toNumber
  | .gt, a, b => b.toNumber.lt a.toNumber
  | .lt, a, b => a.toNumber.lt b.toNumber

theorem mem_all (op : Operator) : op ∈ all := by cases op <;> simp [all]

end Operator

/-- The value one step inside another: a member by its key, an item by its position. -/
def Json.child? (segment : String) : Json → Option Json
  | .object members => Json.Object.find? members segment
  | .list items => (readNatural? (Nat.pow 2 64) segment.toList).bind fun i => items[i]?
  | _ => none

/-- The value at the end of a path that starts inside another value. -/
def Json.descend? : List String → Json → Option Json
  | [], v => some v
  | segment :: rest, v => (v.child? segment).bind (Json.descend? rest)

/-- One comparison. -/
structure Comparison where
  path : List String
  op : Operator
  right : Operand
  deriving DecidableEq, Repr

namespace Comparison

/-- What the path finds in a context; undefined if it leads nowhere. -/
def resolve (path : List String) (context : Json.Object) : Operand :=
  match path with
  | [] => .undefined
  | head :: rest =>
      match (context.find? head).bind (Json.descend? rest) with
      | some v => .ofJson v
      | none => .undefined

/-- Whether the comparison holds in a context. -/
def evaluate (c : Comparison) (context : Json.Object) : Bool :=
  c.op.holds (resolve c.path context) c.right

end Comparison

end WorkflowEngine
