/-
Module: WorkflowEngine.Proofs.JoinedConditions
Layer: Proofs
Purpose: Two comparisons written one after the other, with `&&` or `||` between them.  They are no conjunction and
  no disjunction: the second one is part of the literal of the first.  So they hold exactly where the operator of
  the first one holds between what its path finds and that text, which for the negated operators is almost
  everywhere (`evaluateCondition_joined`, `joined_can_hold`).
Imports: WorkflowEngine.Proofs.ConditionText, WorkflowEngine.Proofs.NumberText
Trusted boundary: none
Main exports: WrittenOperand, WrittenComparison, Connective, Operator.Tells, evaluateCondition_joined, joined_can_hold
-/
import WorkflowEngine.Proofs.ConditionText
import WorkflowEngine.Proofs.NumberText

namespace WorkflowEngine

/-! ## Operands -/

/-- The right operand of a comparison as it is written: a word, which may be a number, or a quoted text. -/
inductive WrittenOperand : List Char → Prop where
  | word {cs : List Char} (ne_nil : cs ≠ []) (unbroken : ∀ c ∈ cs, isBlank c = false) : WrittenOperand cs
  | quoted {quote : Char} {inner : List Char} (quotes : quote = '\'' ∨ quote = '"') (oneLine : '\n' ∉ inner) :
      WrittenOperand (quote :: (inner ++ [quote]))

namespace WrittenOperand

variable {cs : List Char} (written : WrittenOperand cs)
include written

theorem ne_nil : cs ≠ [] := by
  cases written with
  | word ne_nil unbroken => exact ne_nil
  | quoted quotes oneLine => exact List.cons_ne_nil _ _

theorem starts : ∀ c, cs.head? = some c → isBlank c = false := by
  intro c first
  cases written with
  | word ne_nil unbroken => exact unbroken c (List.mem_of_head? first)
  | quoted quotes oneLine =>
      cases first
      rcases quotes with rfl | rfl <;> decide

theorem ends : ∀ c, cs.getLast? = some c → isBlank c = false := by
  intro c last
  cases written with
  | word ne_nil unbroken => exact unbroken c (List.mem_of_getLast? last)
  | quoted quotes oneLine =>
      rw [← List.cons_append, List.getLast?_append] at last
      cases last
      rcases quotes with rfl | rfl <;> decide

theorem oneLine : '\n' ∉ cs := by
  intro member
  cases written with
  | word ne_nil unbroken =>
      have blank := unbroken '\n' member
      cases blank
  | quoted quotes oneLine =>
      simp only [List.mem_cons, List.mem_append, List.not_mem_nil, or_false] at member
      rcases quotes with rfl | rfl <;> simp [oneLine] at member

end WrittenOperand

namespace Operand

/-- A text that a literal is taken from, without the quotes around it if there are any. -/
def literalText (cs : List Char) : List Char := (unquote? cs).getD cs

theorem mem_literalText {cs : List Char} {c : Char} (member : c ∈ cs) (notQuote : c ≠ '\'' ∧ c ≠ '"') :
    c ∈ literalText cs := by
  rw [literalText]
  cases taken : unquote? cs with
  | none => exact member
  | some inner =>
      obtain ⟨quote, quotes, rfl⟩ := eq_of_unquote? taken
      have other : c ≠ quote := by
        rintro rfl
        exact quotes.elim notQuote.1 notQuote.2
      simpa [other] using member

/-- A character that stands in no value other than a text. -/
structure Foreign (c : Char) : Prop where
  notBlank : isBlank c = false
  notHex : isHexDigit c = false
  notMark : c ∉ numberMarks
  notQuote : c ≠ '\'' ∧ c ≠ '"'
  notWord : c ∉ "true".toList ++ "false".toList ++ "null".toList ++ "undefined".toList

/-- A literal with a foreign character is a text. -/
theorem ofLiteral_foreign {cs : List Char} {c : Char} (foreign : Foreign c) (member : c ∈ cs) :
    ofLiteral cs = .text (String.ofList (literalText cs)) := by
  have differs {word : List Char}
      (known : word ⊆ "true".toList ++ "false".toList ++ "null".toList ++ "undefined".toList) : cs ≠ word := by
    rintro rfl
    exact foreign.notWord (known member)
  have notNumber := numberOfText_eq_nan member foreign.notBlank foreign.notHex foreign.notMark
  rw [ofLiteral, if_neg (differs (by simp)), if_neg (differs (by simp)), if_neg (differs (by simp)),
    if_neg (differs (by simp)), literalText]
  cases unquote? cs with
  | none => rw [notNumber]; rfl
  | some inner => rfl

end Operand

/-! ## What an operator tells of a text that is no number -/

namespace Operator

/-- What an operator makes of its operands being the same, where they are in no order. -/
def Tells (op : Operator) (same : Prop) : Prop :=
  match op with
  | .strictEq | .looseEq => same
  | .strictNe | .looseNe => ¬ same
  | .ge | .le | .gt | .lt => False

theorem strictEq_text (left : Operand) (s : String) : left.strictEq (.text s) = true ↔ left = .text s := by
  cases left <;> simp [Operand.strictEq]

theorem looseEq_text {s : String} (notNumber : Operand.numberOfText s.toList = .nan) (left : Operand) :
    left.looseEq (.text s) = true ↔ left = .text s := by
  have never (x : Binary64) : x.eq .nan = false := Binary64.related_nan_right _ x
  cases left <;> simp [Operand.looseEq, Operand.boolAsNumber, Operand.strictEq, notNumber, never]

theorem holds_text {s : String} (notNumber : Operand.numberOfText s.toList = .nan) (op : Operator) (left : Operand) :
    op.holds left (.text s) = true ↔ op.Tells (left = .text s) := by
  have right : (Operand.text s).toNumber = .nan := notNumber
  cases op with
  | strictEq => exact strictEq_text left s
  | strictNe => simp [holds, Tells, ← strictEq_text left s]
  | looseEq => exact looseEq_text notNumber left
  | looseNe => simp [holds, Tells, ← looseEq_text notNumber left]
  | ge => simp [holds, Tells, right, Binary64.le, Binary64.related_nan_left]
  | le => simp [holds, Tells, right, Binary64.le, Binary64.related_nan_right]
  | gt => simp [holds, Tells, right, Binary64.lt, Binary64.related_nan_left]
  | lt => simp [holds, Tells, right, Binary64.lt, Binary64.related_nan_right]

end Operator

/-! ## Joined comparisons -/

/-- A comparison as it is written. -/
structure WrittenComparison extends ComparisonPhrase where
  right : List Char
  written : WrittenOperand right
  apart : op.Grows → (gapAfter ++ right).head? ≠ some '='

/-- What joins two conditions elsewhere. -/
inductive Connective where
  | both
  | either
  deriving DecidableEq, Repr

namespace Connective

/-- The character that a connective is written with, twice. -/
def mark : Connective → Char
  | .both => '&'
  | .either => '|'

/-- The text of a connective, with a space at both sides. -/
def chars (k : Connective) : List Char := [' ', k.mark, k.mark, ' ']

theorem mark_foreign (k : Connective) : Operand.Foreign k.mark := by
  cases k <;> constructor <;> decide +kernel

end Connective

namespace WrittenComparison

variable (c c₁ : WrittenComparison) (k : Connective) (c₂ : WrittenComparison)

/-- The text of a comparison. -/
def chars : List Char := c.toComparisonPhrase.chars ++ c.right

/-- Two comparisons with a connective between them. -/
def joined : List Char := c₁.chars ++ (k.chars ++ c₂.chars)

/-- What of two joined comparisons follows the operator of the first. -/
def tail : List Char := c₁.right ++ (k.chars ++ c₂.chars)

theorem takes : c.Takes c.right where
  ne_nil := c.written.ne_nil
  starts := c.written.starts
  apart := c.apart

/-- A comparison is read as what it says. -/
theorem read?_chars : Expression.read? c.chars = some (.compare ⟨c.path, c.op, .ofLiteral c.right⟩) := by
  rw [chars, Expression.read?_phrase c.takes c.written.ends, if_neg c.written.oneLine]

theorem joined_eq : c₁.joined k c₂ = c₁.toComparisonPhrase.chars ++ c₁.tail k c₂ := by
  simp [joined, tail, chars]

theorem takes_tail : c₁.Takes (c₁.tail k c₂) where
  ne_nil := by simp [tail, c₁.written.ne_nil]
  starts := by
    intro c first
    apply c₁.written.starts
    obtain ⟨d, rest, eq⟩ := List.exists_cons_of_ne_nil c₁.written.ne_nil
    simpa [tail, eq] using first
  apart := by
    intro grows
    obtain ⟨d, rest, eq⟩ := List.exists_cons_of_ne_nil c₁.written.ne_nil
    have own := c₁.apart grows
    rw [eq, List.head?_append] at own
    rwa [tail, eq, List.head?_append]

theorem tail_ends : ∀ c, (c₁.tail k c₂).getLast? = some c → isBlank c = false := by
  intro c last
  apply c₂.written.ends
  rwa [tail, chars, ← List.append_assoc, ← List.append_assoc, Expression.getLast?_append_of_ne_nil c₂.written.ne_nil] at last

theorem mark_mem_tail : k.mark ∈ c₁.tail k c₂ := by
  simp [tail, Connective.chars]

/-- A joined text takes more than a line just where its second comparison does. -/
theorem newline_mem_tail : '\n' ∈ c₁.tail k c₂ ↔ '\n' ∈ c₂.chars := by
  have connective : '\n' ∉ k.chars := by cases k <;> decide
  simp [tail, c₁.written.oneLine, connective]

/-- The second comparison is read as a part of the literal of the first. -/
theorem read?_joined : Expression.read? (c₁.joined k c₂) =
    if '\n' ∈ c₂.chars then none
    else some (.compare ⟨c₁.path, c₁.op, .text (String.ofList (Operand.literalText (c₁.tail k c₂)))⟩) := by
  rw [joined_eq, Expression.read?_phrase (takes_tail c₁ k c₂) (tail_ends c₁ k c₂),
    Operand.ofLiteral_foreign k.mark_foreign (mark_mem_tail c₁ k c₂)]
  simp only [newline_mem_tail]

end WrittenComparison

open WrittenComparison in
/-- Two joined comparisons hold exactly where they fit on a line from the first operand on, and the operator of the
first tells that what its path finds is, or is not, the text of all that follows it. -/
theorem evaluateCondition_joined (c₁ c₂ : WrittenComparison) (k : Connective) (context : Json.Object) :
    evaluateCondition (String.ofList (c₁.joined k c₂)) context = true ↔
      '\n' ∉ c₂.chars ∧
        c₁.op.Tells (Comparison.resolve c₁.path context =
          .text (String.ofList (Operand.literalText (c₁.tail k c₂)))) := by
  have foreign := k.mark_foreign
  have inside := Operand.mem_literalText (mark_mem_tail c₁ k c₂) foreign.notQuote
  have notNumber : Operand.numberOfText (String.ofList (Operand.literalText (c₁.tail k c₂))).toList = .nan := by
    rw [String.toList_ofList]
    exact Operand.numberOfText_eq_nan inside foreign.notBlank foreign.notHex foreign.notMark
  rw [evaluateCondition, String.toList_ofList, read?_joined]
  by_cases lines : '\n' ∈ c₂.chars
  · simp [lines]
  · simp only [lines, if_false, not_false_eq_true, true_and]
    exact Operator.holds_text notNumber c₁.op _

/-- The comparison `x !== n` for a digit `n`. -/
def differsFrom (digit : Char) (plain : isBlank digit = false ∧ digit ≠ '=') : WrittenComparison where
  segments := [['x']]
  gap := [' ']
  op := .strictNe
  gapAfter := [' ']
  segments_ne_nil := by decide
  segment_ne_nil := by decide
  segment_chars := List.forall_mem_singleton.2 (List.forall_mem_singleton.2 (by decide))
  gap_blank := List.forall_mem_singleton.2 (by decide)
  gapAfter_blank := List.forall_mem_singleton.2 (by decide)
  right := [digit]
  written := .word (by simp) (by simp [plain.1])
  apart := by
    intro _ follows
    cases follows

/-- Joined comparisons can hold, although they are no comparison: where `x` is one, `x !== 1 && x !== 2` does. -/
theorem joined_can_hold :
    ¬ ∀ (c₁ c₂ : WrittenComparison) (k : Connective) (context : Json.Object),
      evaluateCondition (String.ofList (c₁.joined k c₂)) context = false := by
  intro never
  have here := never (differsFrom '1' (by decide)) (differsFrom '2' (by decide)) .both [("x", .number (.integer 1))]
  revert here
  decide +kernel

end WorkflowEngine
