/-
Module: WorkflowEngine.Proofs.MissingOperand
Layer: Proofs
Purpose: Comparisons with nothing but white space after the operator.  Four operators are a shorter one and an equals
  sign, and there the equals sign is taken as the literal of the shorter one; so the comparison can hold
  (`comparison_without_operand`, `missing_operand_can_hold`).  After the other four there is no literal, and the text
  is no condition.
Imports: WorkflowEngine.Proofs.JoinedConditions
Trusted boundary: none
Main exports: Operator.shorter?, ComparisonPhrase.trim_chars, comparison_without_operand, missing_operand_can_hold
-/
import WorkflowEngine.Proofs.JoinedConditions

namespace WorkflowEngine

namespace Operator

/-- The operator that is left when an equals sign is taken from the end. -/
def shorter? : Operator → Option Operator
  | .strictEq => some .looseEq
  | .strictNe => some .looseNe
  | .ge => some .gt
  | .le => some .lt
  | .looseEq | .looseNe | .gt | .lt => none

theorem chars_ends (op : Operator) : ∀ c, op.chars.getLast? = some c → isBlank c = false := by
  intro c last
  cases op <;> cases last <;> decide

/-- With nothing after it, an operator is read as the shorter one before an equals sign. -/
theorem readTail?_chars (op : Operator) :
    Expression.readTail? op.chars = op.shorter?.map fun shorter => (shorter, .text "=") := by
  cases op <;> decide +kernel

end Operator

namespace ComparisonPhrase

variable (p : ComparisonPhrase) {lead : List Char}

/-- A path and an operator are left where white space around them is taken away. -/
theorem trim_chars (blank : ∀ c ∈ lead, isBlank c = true) :
    trim (lead ++ p.chars) = p.pathChars ++ (p.gap ++ p.op.chars) := by
  have written : p.chars = p.pathChars ++ (p.gap ++ p.op.chars) ++ p.gapAfter := by simp [chars]
  have front : (lead ++ p.chars).dropWhile isBlank = p.chars :=
    (Expression.span_append blank p.pathChars_starts).2
  have ends : ∀ c, (p.pathChars ++ (p.gap ++ p.op.chars)).getLast? = some c → isBlank c = false := by
    intro c last
    have filled : p.op.chars ≠ [] := by cases p.op <;> decide
    rw [← List.append_assoc, Expression.getLast?_append_of_ne_nil filled] at last
    exact p.op.chars_ends c last
  have whole : trim (p.pathChars ++ (p.gap ++ p.op.chars)) = p.pathChars ++ (p.gap ++ p.op.chars) :=
    trim_eq_self p.pathChars_starts ends
  have kept : (p.pathChars ++ (p.gap ++ p.op.chars)).dropWhile isBlank = p.pathChars ++ (p.gap ++ p.op.chars) :=
    (@Expression.span_append isBlank [] _ (List.forall_mem_nil _) p.pathChars_starts).2
  rw [trim, kept] at whole
  rw [trim, front, written, trimEnd_append_blank p.gapAfter_blank, whole]

/-- Without anything after the operator, what is read is decided by the operator alone. -/
theorem read?_eq (blank : ∀ c ∈ lead, isBlank c = true) :
    Expression.read? (lead ++ p.chars) =
      p.op.shorter?.map fun shorter => .compare ⟨p.path, shorter, .text "="⟩ := by
  have trimmed := p.trim_chars blank
  have inside : p.op.chars ⊆ trim (lead ++ p.chars) := by
    intro o member
    rw [trimmed]
    simp [member]
  obtain ⟨path, tail⟩ := Expression.span_phrase p []
  rw [List.append_nil] at path tail
  rw [Expression.read?_of_operator inside, trimmed, Expression.readComparison?, path, tail,
    Expression.readPath?_pathChars, Operator.readTail?_chars]
  cases p.op.shorter? <;> rfl

/-- So it holds where the shorter operator tells that the path finds, or does not find, an equals sign. -/
theorem evaluateCondition_iff (blank : ∀ c ∈ lead, isBlank c = true) (context : Json.Object) :
    evaluateCondition (String.ofList (lead ++ p.chars)) context = true ↔
      ∃ shorter, p.op.shorter? = some shorter ∧ shorter.Tells (Comparison.resolve p.path context = .text "=") := by
  have notNumber : Operand.numberOfText "=".toList = .nan := by decide +kernel
  rw [evaluateCondition, String.toList_ofList, p.read?_eq blank]
  cases p.op.shorter? with
  | none => simp
  | some shorter =>
      have told := Operator.holds_text notNumber shorter (Comparison.resolve p.path context)
      simpa [Expression.evaluate, Comparison.evaluate] using told

end ComparisonPhrase

/-- A comparison without a right operand is read as one with an equals sign, if its operator is another one before
such a sign, and is no condition otherwise.  It holds where the path finds that sign under `===`, and where it does
not under `!==`. -/
theorem comparison_without_operand (p : ComparisonPhrase) {lead : List Char} (blank : ∀ c ∈ lead, isBlank c = true) :
    Expression.read? (lead ++ p.chars) =
        p.op.shorter?.map (fun shorter => .compare ⟨p.path, shorter, .text "="⟩) ∧
      ∀ context, evaluateCondition (String.ofList (lead ++ p.chars)) context = true ↔
        p.op = .strictEq ∧ Comparison.resolve p.path context = .text "=" ∨
          p.op = .strictNe ∧ Comparison.resolve p.path context ≠ .text "=" := by
  refine ⟨p.read?_eq blank, ?_⟩
  intro context
  rw [p.evaluateCondition_iff blank]
  cases p.op <;> simp [Operator.shorter?, Operator.Tells]

/-- The comparison `x !== 0` without its right operand. -/
def differsFromNothing : ComparisonPhrase := (differsFrom '0' (by decide)).toComparisonPhrase

theorem comparison_without_operand_differs :
    (∀ c ∈ [' '], isBlank c = true) ∧
      evaluateCondition " x !== " [("x", .number (.integer 1))] = true := by
  have blank : ∀ c ∈ [' '], isBlank c = true := List.forall_mem_singleton.2 rfl
  obtain ⟨-, holds⟩ := comparison_without_operand differsFromNothing blank
  refine ⟨blank, (holds _).2 (.inr ⟨rfl, ?_⟩)⟩
  decide +kernel

/-- A comparison without a right operand can hold: where `x` is one, `x !==` does. -/
theorem missing_operand_can_hold :
    ¬ ∀ (p : ComparisonPhrase) (lead : List Char), (∀ c ∈ lead, isBlank c = true) →
      Expression.read? (lead ++ p.chars) = none ∧
        ∀ context, evaluateCondition (String.ofList (lead ++ p.chars)) context = false := by
  intro never
  obtain ⟨-, false⟩ := never differsFromNothing [] (List.forall_mem_nil _)
  have here := false [("x", .number (.integer 1))]
  revert here
  decide +kernel

end WorkflowEngine
