/-
Module: WorkflowEngine.Proofs.QuotedConditions
Layer: Proofs
Purpose: Comparisons with a quoted text.  Nothing inside the quotes is escaped, and nothing has a meaning there: marks,
  operators, dots, digits, words and white space are taken as they are (`Operand.ofLiteral_around`).  The one exception
  is a line feed, which makes the whole text no condition (`Expression.read?_around`).  So an equality is exact for
  texts of one line, and for other texts neither it nor its negation holds (`quoted_equality`,
  `quoted_equality_can_fail`).  No other way to write a text helps (`Expression.oneLine_of_read?`).
Imports: WorkflowEngine.Proofs.ConditionGrammar, WorkflowEngine.Proofs.MissingOperand
Trusted boundary: none
Main exports: QuoteMark, Operand.ofLiteral_around, Expression.read?_around, Expression.oneLine_of_read?,
  evaluateCondition_around, quoted_equality, quoted_equality_can_fail
-/
import WorkflowEngine.Proofs.ConditionGrammar
import WorkflowEngine.Proofs.MissingOperand

namespace WorkflowEngine

/-! ## Quotes -/

/-- A mark that a text is quoted with. -/
inductive QuoteMark where
  | single
  | double
  deriving DecidableEq, Repr

namespace QuoteMark

/-- The character of a mark. -/
def char : QuoteMark → Char
  | .single => '\''
  | .double => '"'

/-- A text between two marks. -/
def around (mark : QuoteMark) (s : String) : List Char := mark.char :: (s.toList ++ [mark.char])

variable (mark : QuoteMark) (s : String)

theorem char_quotes : mark.char = '\'' ∨ mark.char = '"' := by
  cases mark <;> decide

theorem char_notBlank : isBlank mark.char = false := by
  cases mark <;> decide

theorem around_starts : ∀ c, (mark.around s).head? = some c → isBlank c = false := by
  intro c first
  cases first
  exact mark.char_notBlank

theorem around_ends : ∀ c, (mark.around s).getLast? = some c → isBlank c = false := by
  intro c last
  rw [around, ← List.cons_append, List.getLast?_concat] at last
  cases last
  exact mark.char_notBlank

theorem newline_mem_around : '\n' ∈ mark.around s ↔ '\n' ∈ s.toList := by
  have other : '\n' ≠ mark.char := by cases mark <;> decide
  simp [around, other]

/-- A quoted text can follow any operator. -/
theorem takes (p : ComparisonPhrase) : p.Takes (mark.around s) where
  ne_nil := List.cons_ne_nil _ _
  starts := mark.around_starts s
  apart := by
    intro _ follows
    cases gap : p.gapAfter with
    | nil =>
        rw [gap] at follows
        cases mark <;> cases follows
    | cons c rest =>
        rw [gap] at follows
        cases follows
        have blank := p.gapAfter_blank '=' (by simp [gap])
        cases blank

end QuoteMark

namespace Operand

theorem unquote?_around (mark : QuoteMark) (s : String) : unquote? (mark.around s) = some s.toList := by
  simp [QuoteMark.around, unquote?, mark.char_quotes]

/-- Whatever is quoted, the literal is that text. -/
theorem ofLiteral_around (mark : QuoteMark) (s : String) : ofLiteral (mark.around s) = .text s := by
  -- None of the words starts with a mark.
  have differs {word : List Char} (starts : word.head? ≠ some '\'' ∧ word.head? ≠ some '"') :
      mark.around s ≠ word := by
    rintro rfl
    rcases mark.char_quotes with quote | quote <;> simp [QuoteMark.around, quote] at starts
  rw [ofLiteral, if_neg (differs (by decide)), if_neg (differs (by decide)), if_neg (differs (by decide)),
    if_neg (differs (by decide)), unquote?_around]
  exact congrArg text String.ofList_toList

/-- A literal that is a text has nothing in it that was not written. -/
theorem toList_of_ofLiteral {cs : List Char} {s : String} (read : ofLiteral cs = .text s) :
    s.toList = literalText cs := by
  unfold ofLiteral at read
  split_ifs at read
  rw [literalText]
  split at read
  · rename_i inner taken
    cases read
    rw [taken, String.toList_ofList]
    rfl
  · rename_i whole
    split at read
    · cases read
      rw [whole, String.toList_ofList]
      rfl
    · cases read

theorem literalText_subset (cs : List Char) : literalText cs ⊆ cs := by
  rw [literalText]
  cases taken : unquote? cs with
  | none => exact List.Subset.refl _
  | some inner =>
      obtain ⟨quote, -, rfl⟩ := eq_of_unquote? taken
      intro c member
      exact List.mem_cons_of_mem _ (List.mem_append_left _ member)

end Operand

/-! ## Reading -/

namespace Expression

/-- A comparison with a quoted text is read as one with that text, as long as it is one line. -/
theorem read?_around (p : ComparisonPhrase) (mark : QuoteMark) (s : String) :
    read? (p.chars ++ mark.around s) =
      if '\n' ∈ s.toList then none else some (.compare ⟨p.path, p.op, .text s⟩) := by
  rw [read?_phrase (mark.takes s p) (mark.around_ends s), Operand.ofLiteral_around]
  simp only [mark.newline_mem_around]

/-- No condition compares with a text of several lines. -/
theorem oneLine_of_read? {cs : List Char} {c : Comparison} {s : String} (read : read? cs = some (.compare c))
    (right : c.right = .text s) : '\n' ∉ s.toList := by
  obtain ⟨literal, longest, own⟩ := read?_eq_compare_iff.1 read
  obtain ⟨-, follows⟩ := splits_iff.1 longest.splits
  obtain ⟨ends, -⟩ := readRight?_eq_some_iff.1 follows
  rw [Operand.toList_of_ofLiteral (own.symm.trans right)]
  exact fun member => ends.oneLine (Operand.literalText_subset _ member)

end Expression

/-! ## Evaluation -/

/-- It holds where its operator relates what its path finds to that very text. -/
theorem evaluateCondition_around (p : ComparisonPhrase) (mark : QuoteMark) (s : String) (context : Json.Object) :
    evaluateCondition (String.ofList (p.chars ++ mark.around s)) context = true ↔
      '\n' ∉ s.toList ∧ p.op.holds (Comparison.resolve p.path context) (.text s) = true := by
  rw [evaluateCondition, String.toList_ofList, Expression.read?_around]
  by_cases lines : '\n' ∈ s.toList
  · simp [lines]
  · simp [lines, Expression.evaluate, Comparison.evaluate]

/-- Where the path finds a text, the quoted text equals it just if the two are the same and one line, and differs from
it just if they are not the same and the quoted one is one line. -/
theorem quoted_equality (p : ComparisonPhrase) (mark : QuoteMark) (s : String) {t : String} {context : Json.Object}
    (found : Comparison.resolve p.path context = .text t) :
    (p.op = .strictEq ∨ p.op = .looseEq →
      (evaluateCondition (String.ofList (p.chars ++ mark.around s)) context = true ↔ '\n' ∉ s.toList ∧ s = t)) ∧
    (p.op = .strictNe ∨ p.op = .looseNe →
      (evaluateCondition (String.ofList (p.chars ++ mark.around s)) context = true ↔ '\n' ∉ s.toList ∧ s ≠ t)) := by
  -- Between two texts, loose equality is strict equality.
  have strict : (Operand.text t).strictEq (.text s) = true ↔ s = t := by
    rw [Operator.strictEq_text, Operand.text.injEq, eq_comm]
  have loose : (Operand.text t).looseEq (.text s) = true ↔ s = t := strict
  rw [evaluateCondition_around, found]
  constructor
  · rintro (op | op) <;> rw [op]
    · exact and_congr_right fun _ => strict
    · exact and_congr_right fun _ => loose
  · rintro (op | op) <;> rw [op, Operator.holds, Bool.not_eq_true', ← Bool.not_eq_true]
    · exact and_congr_right fun _ => not_congr strict
    · exact and_congr_right fun _ => not_congr loose

/-- The path `x`, and `===`. -/
def equals : ComparisonPhrase := { differsFromNothing with op := .strictEq }

theorem resolve_equals (t : String) : Comparison.resolve equals.path [("x", .text t)] = .text t := by
  have path : equals.path = ["x"] := by decide
  simp [path, Comparison.resolve, Json.Object.find?, Json.descend?, Operand.ofJson]

theorem quoted_equality_marks :
    Comparison.resolve equals.path [("x", .text "it's \"a.b\" !== null")] = .text "it's \"a.b\" !== null" ∧
      evaluateCondition "x === 'it's \"a.b\" !== null'" [("x", .text "it's \"a.b\" !== null")] = true := by
  have found := resolve_equals "it's \"a.b\" !== null"
  obtain ⟨equal, -⟩ := quoted_equality equals .single "it's \"a.b\" !== null" found
  refine ⟨found, (equal (.inl rfl)).2 ⟨?_, rfl⟩⟩
  decide

/-- A text of several lines does not equal itself in quotes, so the line feed cannot be left out. -/
theorem quoted_equality_can_fail :
    ¬ ∀ (p : ComparisonPhrase) (mark : QuoteMark) (s t : String) (context : Json.Object),
      Comparison.resolve p.path context = .text t →
        (p.op = .strictEq →
          (evaluateCondition (String.ofList (p.chars ++ mark.around s)) context = true ↔ s = t)) ∧
        (p.op = .strictNe →
          (evaluateCondition (String.ofList (p.chars ++ mark.around s)) context = true ↔ s ≠ t)) := by
  intro exact
  obtain ⟨equal, -⟩ := exact equals .single "a\nb" "a\nb" [("x", .text "a\nb")] (resolve_equals _)
  have here := (equal rfl).2 rfl
  revert here
  decide +kernel

end WorkflowEngine
