/-
Module: WorkflowEngine.Condition.Expression
Layer: Condition
Purpose: The text form of conditions: a literal, or a path, an operator and a literal.
Imports: WorkflowEngine.Condition.Comparison
Trusted boundary: none
Main exports: Expression, Expression.read?, Expression.evaluate, evaluateCondition
-/
import WorkflowEngine.Condition.Comparison

/-!
# Condition expressions

An expression is the word `true` or `false` in any letter case, or exactly one comparison: a path of segments
joined by dots, an operator, and a literal that runs to the end of the text.  A text that is neither is no
expression, and as a condition it is false.
-/

namespace WorkflowEngine

/-- A condition. -/
inductive Expression where
  | literal (value : Bool)
  | compare (comparison : Comparison)
  deriving DecidableEq, Repr

namespace Expression

/-- The characters that may stand in a segment of a path. -/
def isSegmentChar (c : Char) : Bool :=
  !isBlank c && c ≠ '=' && c ≠ '!' && c ≠ '<' && c ≠ '>' && c ≠ '.' && c ≠ '(' && c ≠ ')'

/-- The characters that may stand in a path. -/
def isPathChar (c : Char) : Bool := isSegmentChar c || c = '.'

/-- Splits a path at its dots; no segment may be empty. -/
def readPath? (cs : List Char) : Option (List String) :=
  let segments := cs.splitOn '.'
  if segments.any List.isEmpty then none else some (segments.map String.ofList)

/-- What follows one of the operators, white space apart, unless it is empty or takes more than a line. -/
def readRight? (op : Operator) (cs : List Char) : Option (List Char) :=
  if op.chars.isPrefixOf cs then
    let right := (cs.drop op.chars.length).dropWhile isBlank
    if right.isEmpty || right.contains '\n' then none else some right
  else none

/-- Reads an operator and a literal. -/
def readTail? (cs : List Char) : Option (Operator × Operand) :=
  Operator.all.findSome? fun op => (readRight? op cs).map fun right => (op, .ofLiteral right)

/-- Reads a comparison that starts and ends with something other than white space. -/
def readComparison? (cs : List Char) : Option Comparison :=
  match readPath? (cs.takeWhile isPathChar) with
  | none => none
  | some path =>
      (readTail? ((cs.dropWhile isPathChar).dropWhile isBlank)).map fun (op, right) => ⟨path, op, right⟩

/-- Whether two texts are equal but for the case of letters of the alphabet. -/
def sameWord (word cs : List Char) : Bool := cs.map Char.toLower == word

/-- Reads an expression. -/
def read? (cs : List Char) : Option Expression :=
  let t := trim cs
  if sameWord "true".toList t then some (.literal true)
  else if sameWord "false".toList t then some (.literal false)
  else (readComparison? t).map .compare

/-- The truth of an expression in a context. -/
def evaluate : Expression → Json.Object → Bool
  | .literal b, _ => b
  | .compare c, context => c.evaluate context

end Expression

/-- The truth of a condition's text in a context; what is no expression is false. -/
def evaluateCondition (text : String) (context : Json.Object) : Bool :=
  match Expression.read? text.toList with
  | some e => e.evaluate context
  | none => false

end WorkflowEngine
